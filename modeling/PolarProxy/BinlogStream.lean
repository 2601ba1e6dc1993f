import PolarProxy.Library.Lines
import PolarProxy.BinlogReader

/-!
# The stream of the binlog reader

The lines of a stream are handled one after the other until one is rejected, whatever the
reads that carry the stream; the buffer holds what no newline has closed yet.

**Results.** `readAllGtids_spec`, `Follows`, `readStream_follows`, `readStream_bounds`.
-/

namespace PolarProxy

namespace BinlogReader

open Lines

/-- The lines of a stream, up to the first that is rejected; `false` when one is. -/
def processLines : List (List Char) → Progress → Except Fault (Progress × Bool)
  | [], s => .ok (s, true)
  | line :: lines, s => do
      let (s, more) ← s.handleLine line
      if more then processLines lines s else return (s, false)

variable {line : List Char}

theorem processLines_cons
    {s s' : Progress} {more : Bool}
    (h : s.handleLine line = .ok (s', more))
    (lines : List (List Char)) :
    processLines (line :: lines) s = if more then processLines lines s' else .ok (s', false) := by
  rw [processLines, h]
  rfl

theorem processLines_error
    {s : Progress} {f : Fault}
    (h : s.handleLine line = .error f)
    (lines : List (List Char)) :
    processLines (line :: lines) s = .error f := by
  rw [processLines, h]
  rfl

theorem processLines_append (lines lines' : List (List Char)) (s : Progress) :
    (∀ f, processLines lines s = .error f → processLines (lines ++ lines') s = .error f) ∧
      (∀ s', processLines lines s = .ok (s', false) →
        processLines (lines ++ lines') s = .ok (s', false)) ∧
      (∀ s', processLines lines s = .ok (s', true) →
        processLines (lines ++ lines') s = processLines lines' s') := by
  induction lines generalizing s with
  | nil =>
      refine ⟨nofun, nofun, ?_⟩
      intro s' h
      obtain ⟨rfl, -⟩ := Prod.mk.inj (Except.ok.inj h)
      rfl
  | cons line lines ih =>
      rw [List.cons_append]
      cases hline : s.handleLine line with
      | error f =>
          rw [processLines_error hline, processLines_error hline]
          exact ⟨fun _ h => h, nofun, nofun⟩
      | ok r =>
          obtain ⟨s', more⟩ := r
          rw [processLines_cons hline, processLines_cons hline]
          cases more with
          | true =>
              exact ih s'
          | false =>
              refine ⟨nofun, fun _ h => h, nofun⟩

/-! ## The loop over the buffer -/

namespace GtidServerData

variable {sd : GtidServerData}

/-- A call of `read_next_gtid` on a buffer with a complete line. -/
theorem readNextGtid_cons
    {line rest : List Char}
    (hline : '\n' ∉ line)
    (hunread : sd.data.drop sd.pos = line ++ '\n' :: rest) :
    sd.readNextGtid = (sd.progress.handleLine line).map fun r =>
      ({ sd with pos := sd.pos + (line.length + 1), progress := r.1 }, r.2) := by
  have hpos : sd.data.length ≠ 0 := by
    intro hzero
    rw [List.length_eq_zero_iff.mp hzero] at hunread
    simp at hunread
  have htake : (line ++ '\n' :: rest).takeWhile (· ≠ '\n') = line := by
    rw [List.takeWhile_append_of_pos]
    · simp
    · intro c hc
      exact decide_eq_true (fun heq => hline (heq ▸ hc))
  rw [readNextGtid, if_neg hpos, hunread, if_pos (by simp), htake]
  dsimp only
  cases hhandle : sd.progress.handleLine line with
  | error f =>
      rfl
  | ok r =>
      rfl

theorem readNextGtid_rest
    (hrest : '\n' ∉ sd.data.drop sd.pos) :
    sd.readNextGtid = .ok (sd, false) := by
  rw [readNextGtid]
  split
  · rfl
  · rw [if_neg hrest]

/-- The loop over the lines of the buffer. -/
theorem readAllGtids_spec
    {rounds : Nat} {lines : List (List Char)} {rest : List Char}
    (hrounds : lines.length < rounds)
    (hpos : sd.pos ≤ sd.data.length)
    (hunread : sd.data.drop sd.pos = terminated '\n' lines ++ rest)
    (hlines : ∀ line ∈ lines, '\n' ∉ line)
    (hrest : '\n' ∉ rest) :
    (∀ f, processLines lines sd.progress = .error f → readAllGtids rounds sd = .error f) ∧
      ∀ s more, processLines lines sd.progress = .ok (s, more) →
        ∃ pos, pos ≤ sd.data.length ∧ (more = true → sd.data.drop pos = rest) ∧
          readAllGtids rounds sd = .ok { sd with pos := pos, progress := s } := by
  induction lines generalizing rounds sd with
  | nil =>
      obtain ⟨rounds, rfl⟩ := Nat.exists_eq_succ_of_ne_zero (Nat.ne_of_gt hrounds)
      have hnext : sd.readNextGtid = .ok (sd, false) :=
        readNextGtid_rest (by rw [hunread]; exact hrest)
      refine ⟨?_, ?_⟩
      · intro f hf
        cases hf
      intro s more h
      obtain ⟨rfl, rfl⟩ := Prod.mk.inj (Except.ok.inj h)
      refine ⟨sd.pos, hpos, fun _ => hunread, ?_⟩
      rw [readAllGtids, hnext]
      rfl
  | cons line lines ih =>
      obtain ⟨rounds, rfl⟩ := Nat.exists_eq_succ_of_ne_zero (Nat.ne_zero_of_lt hrounds)
      rw [List.length_cons] at hrounds
      have hcons : sd.data.drop sd.pos = line ++ '\n' :: (terminated '\n' lines ++ rest) := by
        rw [hunread]
        simp [terminated]
      have hnext := readNextGtid_cons (hlines line List.mem_cons_self) hcons
      cases hline : sd.progress.handleLine line with
      | error f =>
          rw [hline] at hnext
          rw [processLines_error hline]
          constructor
          · intro f' hf
            obtain rfl := Except.error.inj hf
            rw [readAllGtids, hnext]
            rfl
          · intro s' more' hok
            cases hok
      | ok r =>
          obtain ⟨s', more'⟩ := r
          rw [hline] at hnext
          rw [processLines_cons hline]
          have hdrop : sd.data.drop (sd.pos + (line.length + 1)) = terminated '\n' lines ++ rest := by
            rw [← List.drop_drop, hcons, ← List.singleton_append, ← List.append_assoc]
            exact List.drop_left' (by simp)
          have hle : sd.pos + (line.length + 1) ≤ sd.data.length := by
            have hlen := congrArg List.length hcons
            rw [List.length_drop, List.length_append, List.length_cons] at hlen
            omega
          cases more' with
          | true =>
              have hrun : readAllGtids (rounds + 1) sd = readAllGtids rounds
                  { sd with pos := sd.pos + (line.length + 1), progress := s' } := by
                rw [readAllGtids, hnext]
                rfl
              rw [hrun]
              exact @ih { sd with pos := sd.pos + (line.length + 1), progress := s' } rounds
                (by omega) hle hdrop (fun l hl => hlines l (List.mem_cons_of_mem _ hl))
          | false =>
              refine ⟨?_, ?_⟩
              · intro f hf
                cases hf
              intro s more h
              obtain ⟨rfl, rfl⟩ := Prod.mk.inj (Except.ok.inj h)
              refine ⟨sd.pos + (line.length + 1), hle, fun hmore => absurd hmore Bool.false_ne_true, ?_⟩
              rw [readAllGtids, hnext]
              rfl

theorem length_lines_le (lines : List (List Char)) (rest : List Char) :
    lines.length ≤ (terminated '\n' lines ++ rest).length := by
  induction lines with
  | nil =>
      exact Nat.zero_le _
  | cons line lines ih =>
      rw [terminated, List.flatMap_cons, List.append_assoc, List.length_append, List.length_append]
      change lines.length + 1 ≤ _
      rw [terminated] at ih
      rw [List.length_singleton]
      omega

/-- What `dump` leaves: the lines of the buffer are handled, and the rest is kept. -/
theorem dump_spec
    {lines : List (List Char)} {rest : List Char}
    (hpos : sd.pos ≤ sd.data.length)
    (hunread : sd.data.drop sd.pos = terminated '\n' lines ++ rest)
    (hlines : ∀ line ∈ lines, '\n' ∉ line)
    (hrest : '\n' ∉ rest) :
    (∀ f, processLines lines sd.progress = .error f → sd.dump = .error f) ∧
      ∀ s more, processLines lines sd.progress = .ok (s, more) →
        ∃ sd', sd.dump = .ok sd' ∧ sd'.progress = s ∧ sd'.size = sd.size ∧
          sd'.pos ≤ sd'.data.length ∧ sd'.data.length ≤ sd.data.length ∧
            (more = true → sd'.data.drop sd'.pos = rest) := by
  by_cases hzero : sd.data.length = 0
  · have hnil : sd.data = [] := List.length_eq_zero_iff.mp hzero
    rw [hnil, List.drop_nil] at hunread
    obtain ⟨hterm, rfl⟩ := List.append_eq_nil_iff.mp hunread.symm
    obtain rfl : lines = [] := by
      cases lines with
      | nil =>
          rfl
      | cons line lines =>
          simp [terminated] at hterm
    refine ⟨?_, ?_⟩
    · intro f hf
      cases hf
    intro s more h
    obtain ⟨rfl, rfl⟩ := Prod.mk.inj (Except.ok.inj h)
    refine ⟨sd, by rw [dump, if_pos hzero], rfl, rfl, hpos, Nat.le_refl _, fun _ => ?_⟩
    rw [hnil, List.drop_nil]
  · have hrounds : lines.length < sd.data.length + 1 := by
      have hle := length_lines_le lines rest
      rw [← hunread, List.length_drop] at hle
      omega
    obtain ⟨hfault, hok⟩ := readAllGtids_spec hrounds hpos hunread hlines hrest
    have hdump : sd.dump = do
        let sd ← readAllGtids (sd.data.length + 1) sd
        if sd.pos ≥ sd.data.length / 2 then return { sd with data := sd.data.drop sd.pos, pos := 0 }
        else return sd := by
      rw [dump, if_neg hzero]
    constructor
    · intro f h
      rw [hdump, hfault f h]
      rfl
    · intro s more h
      obtain ⟨pos, hle, hkeep, hrun⟩ := hok s more h
      rw [hdump, hrun]
      by_cases hhalf : pos ≥ sd.data.length / 2
      · refine ⟨{ sd with data := sd.data.drop pos, pos := 0, progress := s }, ?_, rfl, rfl,
          Nat.zero_le _, ?_, ?_⟩
        · change (if pos ≥ sd.data.length / 2 then _ else _) = _
          rw [if_pos hhalf]
          rfl
        · dsimp only
          rw [List.length_drop]
          omega
        · intro hmore
          dsimp only
          rw [List.drop_zero]
          exact hkeep hmore
      · refine ⟨{ sd with pos := pos, progress := s }, ?_, rfl, rfl, hle, Nat.le_refl _, hkeep⟩
        change (if pos ≥ sd.data.length / 2 then _ else _) = _
        rw [if_neg hhalf]
        rfl

end GtidServerData

/-! ## The active flag -/

namespace Progress

variable {s s' : Progress}

variable {uuid : List Char}

/-- What follows a copy of a uuid goes on with the uuid, which has room. -/
theorem setUuid_bind
    {β : Type} {f : Progress → Except Fault β} {b : β}
    (h : (s.setUuid uuid >>= f) = .ok b) :
    uuid.length < uuidServerSize ∧ f { s with uuidServer := uuid } = .ok b := by
  rw [setUuid] at h
  split at h
  case isTrue hlen =>
    exact ⟨hlen, h⟩
  case isFalse =>
    cases h

theorem setUuid_of_lt
    (h : uuid.length < uuidServerSize) :
    s.setUuid uuid = .ok { s with uuidServer := uuid } := by
  rw [setUuid, if_pos h]

theorem readPairs_active
    {updated : Bool} {subtokens : List (List Char)} {r : Progress × Bool × Bool}
    (h : readPairs updated subtokens s = .ok r) :
    r.1.active = s.active := by
  induction updated, subtokens, s using readPairs.induct with
  | case1 updated s =>
      obtain rfl := Except.ok.inj h
      rfl
  | case2 updated uuid s =>
      rw [readPairs] at h
      obtain ⟨-, h⟩ := setUuid_bind h
      obtain rfl := Except.ok.inj h
      rfl
  | case3 updated uuid trxid rest s ih =>
      rw [readPairs] at h
      obtain ⟨-, h⟩ := setUuid_bind h
      cases hparse : TrxIdInterval.parse trxid with
      | none =>
          simp only [hparse] at h
          obtain rfl := Except.ok.inj h
          rfl
      | some iv =>
          simp only [hparse] at h
          have hrest := ih _ _ h
          exact hrest

theorem readElements_active
    {updated : Bool} {tokens : List (List Char)} {r : Progress × Bool × Bool}
    (h : readElements updated tokens s = .ok r) :
    r.1.active = s.active := by
  induction tokens generalizing updated s with
  | nil =>
      obtain rfl := Except.ok.inj h
      rfl
  | cons token tokens ih =>
      rw [readElements] at h
      cases hpairs : readPairs updated (strtok ':' token) s with
      | error f =>
          simp only [hpairs] at h
          cases h
      | ok r' =>
          have hactive := readPairs_active hpairs
          obtain ⟨t, updated', valid⟩ := r'
          simp only [hpairs] at h
          change (if valid && !(strtok ':' token).isEmpty then readElements updated' tokens t
            else .ok (t, updated', false)) = _ at h
          split at h
          · exact (ih h).trans hactive
          · obtain rfl := Except.ok.inj h
            exact hactive

/-- What a line that is not a bootstrap message does: nothing, one addition, or a rejection
that leaves the set as it is. -/
inductive RecordOutcome (s : Progress) : Progress × Bool → Prop
  | ignored : RecordOutcome s (s, true)
  | added {t : Progress} (arg : GtidArg) :
      t.active = s.active →
      RecordOutcome s ((t.addGtid arg).2.countEvent, true)
  | rejected {t : Progress} :
      t.gtidExecuted = s.gtidExecuted →
      RecordOutcome s (t.deactivate, false)

theorem bind_ok {α β : Type} (a : α) (f : α → Except Fault β) :
    (Except.ok a >>= f) = f a :=
  rfl

variable {r : Progress × Bool}

theorem readRecord_outcome
    (h : s.readRecord line = .ok r) :
    RecordOutcome s r := by
  rw [readRecord] at h
  by_cases hlen : line.length ≥ recMsgSize
  · rw [if_pos hlen] at h
    cases h
  · rw [if_neg hlen] at h
    change (if (cString line).head? ≠ some 'I' then Except.ok (s, true) else _) = _ at h
    by_cases hhead : (cString line).head? ≠ some 'I'
    · rw [if_pos hhead] at h
      obtain rfl := Except.ok.inj h
      exact RecordOutcome.ignored
    · rw [if_neg hhead] at h
      cases hpayload : payload line with
      | error f =>
          rw [hpayload] at h
          split at h
          case h_5 =>
            obtain rfl := Except.ok.inj h
            exact RecordOutcome.rejected rfl
          all_goals cases h
      | ok rest =>
          rw [hpayload] at h
          split at h
          case h_1 =>
            rw [bind_ok] at h
            cases hsplit : splitColon rest with
            | none =>
                rw [hsplit] at h
                obtain rfl := Except.ok.inj h
                exact RecordOutcome.rejected rfl
            | some found =>
                rw [hsplit] at h
                obtain ⟨-, h⟩ := setUuid_bind h
                obtain rfl := Except.ok.inj h
                exact RecordOutcome.added _ rfl
          case h_2 =>
            obtain rfl := Except.ok.inj h
            exact RecordOutcome.added _ rfl
          case h_3 =>
            rw [bind_ok] at h
            cases hsplit : splitColon rest with
            | none =>
                rw [hsplit] at h
                obtain rfl := Except.ok.inj h
                exact RecordOutcome.rejected rfl
            | some found =>
                rw [hsplit] at h
                obtain ⟨-, h⟩ := setUuid_bind h
                cases hparse : TrxIdInterval.parse found.2 with
                | none =>
                    rw [hparse] at h
                    obtain rfl := Except.ok.inj h
                    exact RecordOutcome.rejected rfl
                | some iv =>
                    rw [hparse] at h
                    obtain rfl := Except.ok.inj h
                    exact RecordOutcome.added _ rfl
          case h_4 =>
            rw [bind_ok] at h
            cases hparse : TrxIdInterval.parse rest with
            | none =>
                rw [hparse] at h
                obtain rfl := Except.ok.inj h
                exact RecordOutcome.rejected rfl
            | some iv =>
                rw [hparse] at h
                obtain rfl := Except.ok.inj h
                exact RecordOutcome.added _ rfl
          case h_5 =>
            obtain rfl := Except.ok.inj h
            exact RecordOutcome.rejected rfl

/-- A line that is rejected, and no other, deactivates the server. -/
theorem handleLine_active
    (h : s.handleLine line = .ok r) :
    r.1.active = (s.active && r.2) := by
  rw [handleLine] at h
  split at h
  · rw [readBootstrap] at h
    cases helements : readElements false (strtok ',' (cString (line.drop 3))) s with
    | error f =>
        rw [helements] at h
        cases h
    | ok r' =>
        have hactive := readElements_active helements
        obtain ⟨t, updated, valid⟩ := r'
        rw [helements] at h
        change (if valid then Except.ok (if updated then t.countEvent else t, true)
          else .ok (t.deactivate, false)) = _ at h
        cases valid with
        | true =>
            obtain rfl := Except.ok.inj h
            cases updated with
            | true =>
                simpa [countEvent] using hactive
            | false =>
                simpa using hactive
        | false =>
            obtain rfl := Except.ok.inj h
            simp [deactivate]
  · cases readRecord_outcome h with
    | ignored =>
        simp
    | added arg ht =>
        simpa [countEvent, addGtid] using ht
    | rejected ht =>
        simp [deactivate]

end Progress

/-- The lines of a stream deactivate the server when one of them is rejected. -/
theorem processLines_active
    {lines : List (List Char)} {s : Progress} {r : Progress × Bool}
    (h : processLines lines s = .ok r) :
    r.1.active = (s.active && r.2) := by
  induction lines generalizing s with
  | nil =>
      obtain rfl := Except.ok.inj h
      simp
  | cons line lines ih =>
      cases hline : s.handleLine line with
      | error f =>
          rw [processLines_error hline] at h
          cases h
      | ok r' =>
          have hactive := Progress.handleLine_active hline
          obtain ⟨s', more⟩ := r'
          rw [processLines_cons hline] at h
          cases more with
          | true =>
              rw [ih h, hactive]
              simp
          | false =>
              obtain rfl := Except.ok.inj h
              exact hactive

/-! ## Runs -/

/-- A result that gives bytes of the stream or none. -/
def ReadResult.gives : ReadResult → Bool
  | .bytes _ => true
  | .again => true
  | .eof => false
  | .failed => false

/-- What is to come of a stream is handled as its lines are: the lines of the buffer after
those that were handled, or none once one was rejected. -/
def Follows (stream : List Char) (conn : GtidServerData × List Char) : Prop :=
  ∃ read, stream = read ++ conn.2 ∧ conn.1.pos ≤ conn.1.data.length ∧
    ((conn.1.progress.active = true ∧ '\n' ∉ conn.1.data.drop conn.1.pos ∧
        ∀ ext, processLines (complete '\n' (read ++ ext)) {} =
          processLines (complete '\n' (conn.1.data.drop conn.1.pos ++ ext)) conn.1.progress) ∨
      (conn.1.progress.active = false ∧
        ∀ ext, processLines (complete '\n' (read ++ ext)) {} = .ok (conn.1.progress, false)))

namespace GtidServerData

@[simp]
theorem expand_data (sd : GtidServerData) : sd.expand.data = sd.data := by
  unfold expand
  split
  · rfl
  · rfl

@[simp]
theorem expand_pos (sd : GtidServerData) : sd.expand.pos = sd.pos := by
  unfold expand
  split
  · rfl
  · rfl

@[simp]
theorem expand_progress (sd : GtidServerData) : sd.expand.progress = sd.progress := by
  unfold expand
  split
  · rfl
  · rfl

/-- What a read brings is the beginning of what waits, and stands behind the buffer. -/
theorem readall_gives
    (sd : GtidServerData) (socket : List Char)
    {result : ReadResult}
    (h : result.gives = true) :
    ∃ sd' chunk rest, sd.readall socket result = (sd', rest, true) ∧ socket = chunk ++ rest ∧
      sd'.data = sd.data ++ chunk ∧ sd'.pos = sd.pos ∧ sd'.progress = sd.progress := by
  cases result with
  | bytes n =>
      refine ⟨_, socket.take (min n (sd.expand.size - sd.expand.data.length)), _, rfl, ?_, ?_, ?_, ?_⟩
      · exact (List.take_append_drop _ _).symm
      · simp
      · simp
      · simp
  | again =>
      exact ⟨sd.expand, [], socket, rfl, rfl, by simp, by simp, by simp⟩
  | eof | failed =>
      cases h

theorem readerCb_follows
    {stream : List Char} {conn : GtidServerData × List Char} {result : ReadResult}
    (h : Follows stream conn)
    (hgives : result.gives = true) :
    (∀ f, readerCb conn result = .error f → processLines (complete '\n' stream) {} = .error f) ∧
      ∀ conn', readerCb conn result = .ok conn' → Follows stream conn' := by
  obtain ⟨sd, socket⟩ := conn
  obtain ⟨read, rfl, hpos, hcase⟩ := h
  rcases hcase with ⟨hactive, hrest, hlines⟩ | ⟨hactive, hlines⟩
  · obtain ⟨sd₁, chunk, rest, hread, rfl, hdata, hpos₁, hprogress⟩ := readall_gives sd socket hgives
    have hcb : readerCb (sd, chunk ++ rest) result = do
        let sd ← sd₁.dump
        return (sd, rest) := by
      rw [readerCb, if_pos hactive]
      dsimp only
      rw [hread]
    have hpos' : sd₁.pos ≤ sd₁.data.length := by
      rw [hpos₁, hdata, List.length_append]
      exact Nat.le_trans hpos (Nat.le_add_right _ _)
    have hunread : sd₁.data.drop sd₁.pos = sd.data.drop sd.pos ++ chunk := by
      rw [hpos₁, hdata, List.drop_append_of_le_length hpos]
    obtain ⟨lines, tail, hsplit, hnl, htail⟩ := exists_terminated '\n' (sd₁.data.drop sd₁.pos)
    obtain ⟨hfault, hok⟩ := dump_spec hpos' hsplit hnl htail
    -- the lines to come: those of the buffer, and those that begin with its rest
    have hcome : ∀ ext, processLines (complete '\n' (read ++ (chunk ++ ext))) {} =
        processLines (lines ++ complete '\n' (tail ++ ext)) sd₁.progress := by
      intro ext
      rw [hlines, hprogress, ← List.append_assoc, ← hunread, hsplit, List.append_assoc,
        complete_terminated hnl]
    rw [hcb]
    cases hprocess : processLines lines sd₁.progress with
    | error f =>
        rw [hfault f hprocess]
        constructor
        · intro f' hf
          obtain rfl := Except.error.inj hf
          rw [hcome]
          exact (processLines_append lines _ _).1 f hprocess
        · intro conn' hconn
          cases hconn
    | ok r =>
        obtain ⟨s, more⟩ := r
        have hflag := processLines_active hprocess
        obtain ⟨sd', hdump, rfl, -, hpos'', -, hkeep⟩ := hok s more hprocess
        rw [hdump]
        refine ⟨?_, ?_⟩
        · intro f hf
          cases hf
        intro conn' hconn
        obtain rfl := Except.ok.inj hconn
        refine ⟨read ++ chunk, by simp, hpos'', ?_⟩
        cases more with
        | true =>
            rw [hprogress, hactive] at hflag
            refine Or.inl ⟨by simpa using hflag, ?_, ?_⟩
            · rw [hkeep rfl]
              exact htail
            · intro ext
              rw [List.append_assoc, hcome, hkeep rfl]
              exact (processLines_append lines _ _).2.2 _ hprocess
        | false =>
            refine Or.inr ⟨by simpa using hflag, ?_⟩
            intro ext
            rw [List.append_assoc, hcome]
            exact (processLines_append lines _ _).2.1 _ hprocess
  · have hcb : readerCb (sd, socket) result = .ok (sd, socket) := by
      rw [readerCb, if_neg (by rw [hactive]; exact Bool.false_ne_true)]
    rw [hcb]
    refine ⟨?_, ?_⟩
    · intro f hf
      cases hf
    intro conn' hconn
    obtain rfl := Except.ok.inj hconn
    exact ⟨read, rfl, hpos, Or.inr ⟨hactive, hlines⟩⟩

/-- Every sequence of reads of a stream. -/
theorem readStream_follows
    (stream : List Char) (results : List ReadResult)
    (hgives : ∀ result ∈ results, result.gives = true) :
    (∀ f, readStream stream results = .error f → processLines (complete '\n' stream) {} = .error f) ∧
      ∀ conn, readStream stream results = .ok conn → Follows stream conn := by
  have hrun : ∀ conn, Follows stream conn →
      (∀ f, results.foldlM readerCb conn = .error f →
          processLines (complete '\n' stream) {} = .error f) ∧
        ∀ conn', results.foldlM readerCb conn = .ok conn' → Follows stream conn' := by
    induction results with
    | nil =>
        intro conn h
        refine ⟨nofun, ?_⟩
        intro conn' hconn
        obtain rfl := Except.ok.inj hconn
        exact h
    | cons result results ih =>
        intro conn h
        obtain ⟨hfault, hok⟩ := readerCb_follows h (hgives result List.mem_cons_self)
        rw [List.foldlM_cons]
        cases hcb : readerCb conn result with
        | error f =>
            refine ⟨?_, nofun⟩
            intro f' hf
            obtain rfl := Except.error.inj hf
            exact hfault f hcb
        | ok conn₁ =>
            exact ih (fun r hr => hgives r (List.mem_cons_of_mem _ hr)) conn₁ (hok conn₁ hcb)
  refine hrun ({}, stream) ⟨[], rfl, Nat.le_refl _, Or.inl ⟨rfl, by simp, ?_⟩⟩
  intro ext
  rfl

/-- The positions of the buffer. -/
def Bounded (sd : GtidServerData) : Prop :=
  0 < sd.size ∧ sd.pos ≤ sd.data.length ∧ sd.data.length ≤ sd.size

theorem Bounded.expand
    {sd : GtidServerData}
    (h : sd.Bounded) :
    sd.expand.Bounded := by
  obtain ⟨hsize, hpos, hlen⟩ := h
  unfold GtidServerData.expand
  split
  case isTrue heq =>
    refine ⟨?_, hpos, ?_⟩
    · dsimp only
      omega
    · dsimp only
      omega
  case isFalse =>
    exact ⟨hsize, hpos, hlen⟩

theorem Bounded.readall
    {sd : GtidServerData}
    (h : sd.Bounded)
    (socket : List Char) (result : ReadResult) :
    (sd.readall socket result).1.Bounded := by
  cases result with
  | bytes n =>
      obtain ⟨hsize, hpos, hlen⟩ := h.expand
      refine ⟨hsize, ?_, ?_⟩
      · change sd.expand.pos ≤ (sd.expand.data ++ _).length
        rw [List.length_append]
        omega
      · change (sd.expand.data ++ socket.take (min n (sd.expand.size - sd.expand.data.length))).length ≤
          sd.expand.size
        rw [List.length_append, List.length_take]
        omega
  | again | eof | failed =>
      exact h.expand

theorem Bounded.dump
    {sd sd' : GtidServerData}
    (h : sd.Bounded)
    (hdump : sd.dump = .ok sd') :
    sd'.Bounded := by
  obtain ⟨hsize, hpos, hlen⟩ := h
  obtain ⟨lines, rest, hsplit, hnl, hrest⟩ := exists_terminated '\n' (sd.data.drop sd.pos)
  obtain ⟨hfault, hok⟩ := dump_spec hpos hsplit hnl hrest
  cases hprocess : processLines lines sd.progress with
  | error f =>
      rw [hfault f hprocess] at hdump
      cases hdump
  | ok r =>
      obtain ⟨s, more⟩ := r
      obtain ⟨sd'', hdump', -, hsize', hpos', hlen', -⟩ := hok s more hprocess
      rw [hdump'] at hdump
      obtain rfl := Except.ok.inj hdump
      exact ⟨by omega, hpos', by omega⟩

/-- The positions of the buffer stay in order, whatever the reads return. -/
theorem readStream_bounds
    {stream : List Char} {results : List ReadResult} {conn : GtidServerData × List Char}
    (h : readStream stream results = .ok conn) :
    conn.1.Bounded := by
  have hrun : ∀ start : GtidServerData × List Char, start.1.Bounded →
      results.foldlM readerCb start = .ok conn → conn.1.Bounded := by
    clear h
    induction results with
    | nil =>
        intro start hstart heq
        obtain rfl := Except.ok.inj heq
        exact hstart
    | cons result results ih =>
        intro start hstart heq
        rw [List.foldlM_cons] at heq
        cases hcb : readerCb start result with
        | error f =>
            rw [hcb] at heq
            cases heq
        | ok next =>
            rw [hcb] at heq
            refine ih next ?_ heq
            rw [readerCb] at hcb
            split at hcb
            · have hread := hstart.readall start.2 result
              split at hcb
              case h_1 sd socket hres =>
                rw [hres] at hread
                cases hdump : sd.dump with
                | error f =>
                    rw [hdump] at hcb
                    cases hcb
                | ok sd' =>
                    rw [hdump] at hcb
                    obtain rfl := Except.ok.inj hcb
                    exact hread.dump hdump
              case h_2 sd socket hres =>
                rw [hres] at hread
                obtain rfl := Except.ok.inj hcb
                exact hread
            · obtain rfl := Except.ok.inj hcb
              exact hstart
  exact hrun ({}, stream) ⟨Nat.succ_pos 1023, Nat.le_refl 0, Nat.zero_le 1024⟩ h

end GtidServerData

end BinlogReader

end PolarProxy
