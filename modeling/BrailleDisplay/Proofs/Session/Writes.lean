import BrailleDisplay.Proofs.Session.Path

/-!
# Writes of an operation

A poll reads before it writes, and it writes at most once: after a write the link is not ready, so
nothing is left for the flush at the end. A write to the main cells is a flush and nothing else.
-/
namespace BrailleDisplay

variable {T : Type}

namespace Session

/-- Between two sessions calls were made, but nothing was written. -/
def Listens (s t : Session T) : Prop :=
  ∃ calls, t.line.journal = s.line.journal ++ calls ∧
    ∀ entry ∈ calls, (Event.called entry).isWrite = false

/-- Between two sessions at most one call was made, a write, after which the link is not ready. -/
inductive Sends (s t : Session T) : Prop where
  | nothing (journal : t.line.journal = s.line.journal)
  | once (entry : Entry) (journal : t.line.journal = s.line.journal ++ [entry])
      (write : (Event.called entry).isWrite = true) (busy : t.link.state ≠ .ready)

theorem Listens.trans {s t u : Session T} (first : s.Listens t) (second : t.Listens u) :
    s.Listens u := by
  obtain ⟨calls, journal, reads⟩ := first
  obtain ⟨more, journal', reads'⟩ := second
  refine ⟨calls ++ more, ?_, List.forall_mem_append.mpr ⟨reads, reads'⟩⟩
  rw [journal', journal, List.append_assoc]

/-- One call that is not a write. -/
theorem listens_after (s : Session T) {call : Call} (transport : T)
    (read : (Event.called ⟨s.link.state, call⟩).isWrite = false) :
    s.Listens (s.after call transport) :=
  ⟨[_], rfl, List.forall_mem_singleton.mpr read⟩

theorem Listens.of_journal {s t u : Session T} (h : s.Listens t)
    (journal : u.line.journal = t.line.journal) : s.Listens u := by
  obtain ⟨calls, earlier, reads⟩ := h
  exact ⟨calls, journal.trans earlier, reads⟩

theorem Sends.of_eq {s t u : Session T} (h : s.Sends t) (journal : u.line.journal = t.line.journal)
    (link : u.link = t.link) : s.Sends u := by
  cases h with
  | nothing h => exact .nothing (journal.trans h)
  | once entry h write busy => exact .once entry (journal.trans h) write (link ▸ busy)

theorem callsUntil_of_journal {s t : Session T} {calls : List Entry}
    (h : t.line.journal = s.line.journal ++ calls) : s.callsUntil t = calls := by
  rw [callsUntil, h, List.drop_left]

theorem Listens.reads {s t : Session T} (h : s.Listens t) :
    ∀ entry ∈ s.callsUntil t, (Event.called entry).isWrite = false := by
  obtain ⟨calls, journal, reads⟩ := h
  rwa [callsUntil_of_journal journal]

theorem Sends.callsUntil {s t : Session T} (h : s.Sends t) : (s.callsUntil t).length ≤ 1 := by
  cases h with
  | nothing journal => simp [Session.callsUntil, journal]
  | once entry journal => simp [Session.callsUntil, journal]

variable [Transport T]

theorem listens_hear (s : Session T) (byte : UInt8) : s.Listens (s.hear byte).2 := by
  unfold hear
  split
  · obtain ⟨more, transport, awaited⟩ := s.awaitMore_eq
    have waited : s.Listens (s.after (.await s.config.disconnectGrace more) transport) :=
      s.listens_after transport rfl
    rw [awaited]
    cases more with
    | true => exact waited.of_journal (hearInState_journal _ _)
    | false => exact waited.of_journal rfl
  · split
    · exact ⟨[], (List.append_nil _).symm, nofun⟩
    · exact ⟨[], (hearInState_journal _ _).trans (List.append_nil _).symm, nofun⟩

theorem listens_heard {s rest : Session T} {byte : UInt8}
    (h : s.readByte = (.ok (some byte), rest)) : s.Listens (rest.hear byte).2 := by
  obtain ⟨transport, rfl⟩ := readByte_eq h
  exact (s.listens_after transport rfl).trans (listens_hear _ byte)

theorem listens_drain (s : Session T) (heard : Bool) : s.Listens (s.drain heard).2 := by
  fun_induction drain s heard with
  | case1 s heard fault rest h =>
    obtain ⟨transport, rfl⟩ := readByte_eq h
    exact (s.listens_after transport rfl).of_journal rfl
  | case2 s heard rest h =>
    obtain ⟨transport, rfl⟩ := readByte_eq h
    exact s.listens_after transport rfl
  | case3 s heard byte rest h command _ => exact listens_heard h
  | case4 s heard byte rest h _ ih => exact (listens_heard h).trans ih
  | case5 s heard byte rest h _ ih => exact (listens_heard h).trans ih

theorem transmit_eq {s : Session T} {frame : Frame}
    (built : s.image.frame? s.model.envelope = some frame) :
    ∃ accepted transport, s.transmit =
      if accepted = some frame.bytes.length then
        { s.after (.write frame.bytes accepted) transport with
          image := s.image.markClean }.apply .frameSent
      else (s.after (.write frame.bytes accepted) transport).apply .faulted := by
  obtain ⟨accepted, transport, sent⟩ := s.send_eq frame.bytes
  refine ⟨accepted, transport, ?_⟩
  simp only [transmit, built, sent]
  split_ifs with whole
  · simp only [whole, BEq.rfl]
    rfl
  · simp only [beq_eq_false_iff_ne.mpr whole]

theorem probe_eq (s : Session T) :
    ∃ accepted transport, s.probe =
      if accepted = some 1 then
        (s.after (.write [Signal.describe] accepted) transport).apply .probed
      else (s.after (.write [Signal.describe] accepted) transport).apply .faulted := by
  obtain ⟨accepted, transport, sent⟩ := s.send_eq [Signal.describe]
  refine ⟨accepted, transport, ?_⟩
  unfold probe
  rw [sent]
  split_ifs with whole
  · rw [whole]
    rfl
  · have cut : (accepted == some [Signal.describe].length) = false := beq_eq_false_iff_ne.mpr whole
    simp only [cut]

theorem sends_transmit (s : Session T) : s.Sends s.transmit := by
  unfold transmit
  split
  · exact .nothing rfl
  · next frame _ =>
    obtain ⟨accepted, transport, sent⟩ := s.send_eq frame.bytes
    rw [sent]
    cases accepted == some frame.bytes.length with
    | true => exact .once _ rfl rfl (Link.state_apply_frameSent_ne _)
    | false => exact .once _ rfl rfl (by simp)

theorem sends_probe {s : Session T} (h : s.link.state ≠ .ready) : s.Sends s.probe := by
  unfold probe
  obtain ⟨accepted, transport, sent⟩ := s.send_eq [Signal.describe]
  rw [sent]
  cases accepted == some [Signal.describe].length with
  | true => exact .once _ rfl rfl (Link.state_apply_probed_ne h)
  | false => exact .once _ rfl rfl (by simp)

theorem sends_recover (s : Session T) : s.Sends s.recover := by
  cases s.recovery with
  | rest same => exact .nothing (by rw [same])
  | giveUp _ _ _ given => exact .nothing (by rw [given]; rfl)
  | probe due probed =>
    rw [probed]
    refine sends_probe ?_
    rcases due with ⟨state, _⟩ | ⟨state, _⟩ | ⟨state, _⟩ <;> simp [state]
  | again _ _ _ sent =>
    rw [sent]
    cases sends_transmit { s with image := s.image.markDirty } with
    | nothing journal => exact .nothing journal
    | once entry journal write busy => exact .once entry journal write busy

/-- Recovery does not make a link ready. -/
theorem recover_ne_ready {s : Session T} (h : s.link.state ≠ .ready) :
    s.recover.link.state ≠ .ready := by
  cases s.recovery with
  | rest same => rwa [same]
  | giveUp _ _ _ given => simp [given]
  | probe _ probed =>
    obtain ⟨accepted, transport, sent⟩ := s.probe_eq
    rw [probed, sent]
    split_ifs
    · exact Link.state_apply_probed_ne h
    · simp
  | again _ _ _ sent =>
    rw [sent]
    cases built : s.image.frame? s.model.envelope with
    | none =>
      have refused : s.image.markDirty.frame? s.model.envelope = none := built
      rwa [transmit, refused]
    | some frame =>
      obtain ⟨accepted, transport, written⟩ :=
        transmit_eq (s := { s with image := s.image.markDirty }) built
      rw [written]
      split_ifs
      · exact Link.state_apply_frameSent_ne _
      · simp

theorem flush_of_ne {s : Session T} (h : s.link.state ≠ .ready) : s.flush = s := by
  unfold flush
  cases state : s.link.state <;> simp_all [LinkState.acceptsFrames]

theorem Sends.flush {s t : Session T} (h : s.Sends t) : s.Sends t.flush := by
  cases h with
  | nothing journal =>
    unfold Session.flush
    split_ifs
    · cases sends_transmit t with
      | nothing journal' => exact .nothing (journal'.trans journal)
      | once entry journal' write busy => exact .once entry (journal ▸ journal') write busy
    · exact .nothing journal
  | once entry journal write busy =>
    rw [flush_of_ne busy]
    exact .once entry journal write busy

/-- Once a poll has read, it writes at most once. -/
theorem poll_sends (s : Session T) (elapsed : UInt32) :
    ((s.tick elapsed).drain false).2.Sends (s.poll elapsed).2 := by
  unfold poll
  cases (s.tick elapsed).drain false with
  | mk result rest =>
    have unsent : rest.Sends rest := .nothing rfl
    have repeating {t : Session T} (h : rest.Sends t) : rest.Sends t.autorepeat.2 :=
      h.of_eq (congrArg Line.journal (autorepeat_line t)) (autorepeat_link t)
    match result with
    | .key command =>
      have reset : rest.Sends { rest with countdown := rest.config.repeatDelay } := .nothing rfl
      exact reset.flush
    | .dry true => exact repeating unsent.flush
    | .dry false => exact repeating (sends_recover rest).flush

/-- A poll lets time pass, reads, and then makes whatever call is left. -/
theorem events_poll (s : Session T) (elapsed : UInt32) :
    s.events (.poll elapsed) = .polled elapsed s.link ::
      ((s.tick elapsed).callsUntil ((s.tick elapsed).drain false).2).map .called ++
      (((s.tick elapsed).drain false).2.callsUntil (s.poll elapsed).2).map .called := by
  obtain ⟨calls, journal, _⟩ := listens_drain (s.tick elapsed) false
  have later : (s.poll elapsed).2.line.journal = s.line.journal ++ (calls ++
      ((s.tick elapsed).drain false).2.callsUntil (s.poll elapsed).2) := by
    cases s.poll_sends elapsed with
    | nothing same =>
      rw [callsUntil_of_journal (same.trans (List.append_nil _).symm), same, journal]
      simp [tick]
    | once entry same =>
      rw [callsUntil_of_journal same, same, journal]
      simp [tick]
  simp [events, heading, perform, callsUntil_of_journal journal, callsUntil_of_journal later]

/-- Nothing is written while a poll reads. -/
theorem unwritten_poll (s : Session T) (elapsed : UInt32) :
    ∀ event ∈ Event.polled elapsed s.link ::
        ((s.tick elapsed).callsUntil ((s.tick elapsed).drain false).2).map .called,
      event.isWrite = false := by
  have reads := (listens_drain (s.tick elapsed) false).reads
  simpa [Event.isWrite] using reads

theorem writesIn_poll (s : Session T) (elapsed : UInt32) :
    writesIn (s.events (.poll elapsed)) ≤ 1 ∧
      ∀ event ∈ (s.events (.poll elapsed)).dropLast, event.isWrite = false := by
  have silent := s.unwritten_poll elapsed
  have once := (s.poll_sends elapsed).callsUntil
  rw [events_poll]
  generalize (s.tick elapsed).callsUntil _ = calls at silent
  generalize ((s.tick elapsed).drain false).2.callsUntil _ = writes at once
  constructor
  · have none : writesIn (.polled elapsed s.link :: calls.map .called) = 0 :=
      List.countP_eq_zero.mpr (by simpa using silent)
    have bound : writesIn (writes.map .called) ≤ _ := List.countP_le_length
    rw [List.length_map] at bound
    rw [writesIn_append]
    omega
  · intro event inside
    refine silent event ?_
    match writes with
    | [] =>
      rw [List.map_nil, List.append_nil] at inside
      exact List.dropLast_subset _ inside
    | [write] => rwa [List.map_singleton, List.dropLast_concat] at inside

theorem writesIn_write {s next : Session T} {area : Area} {cells : List Cell}
    (done : s.write area cells = .ok next) :
    writesIn (s.events (.write area cells)) ≤ (s.callsUntil next).length := by
  have unwritten : writesIn [.shown area cells] = 0 := rfl
  have bound : writesIn ((s.callsUntil next).map .called) ≤ _ := List.countP_le_length
  rw [List.length_map] at bound
  rw [events_write done, ← List.singleton_append, writesIn_append, unwritten, Nat.zero_add]
  exact bound

/-- Cells written to the main area go out at once, if the link is ready. -/
theorem writesIn_write_main (s : Session T) (cells : List Cell) :
    writesIn (s.events (.write .main cells)) ≤ 1 ∧
      (s.link.state ≠ .ready → writesIn (s.events (.write .main cells)) = 0) := by
  cases written : s.image.write .main cells with
  | error mismatch => simp [events_refused written, writesIn]
  | ok image =>
    have bound := writesIn_write (write_main written)
    have shown : s.Sends { s with image } := .nothing rfl
    refine ⟨Nat.le_trans bound shown.flush.callsUntil, ?_⟩
    intro busy
    have unflushed : { s with image }.flush = { s with image } := flush_of_ne busy
    rw [unflushed] at bound
    simpa [callsUntil] using bound

theorem writesIn_write_status (s : Session T) (cells : List Cell) :
    writesIn (s.events (.write .status cells)) = 0 := by
  cases written : s.image.write .status cells with
  | error mismatch => simp [events_refused written, writesIn]
  | ok image => simpa [callsUntil] using writesIn_write (write_status written)

end Session

end BrailleDisplay
