import BrailleDisplay.Proofs.Session.Delivery
import BrailleDisplay.Proofs.Session.Unseen
import BrailleDisplay.Transport.Script

/-!
# Identification forgets the keys

A display that names its identifier again starts with a keyboard on which nothing is held. Of what
the session knew about the keys before, only the countdown to the next repetition is left, and that
idles until the next press of a front key. Neither the countdown nor the earlier calls of a session
are seen from then on, so both can be put back with `vary`.
-/
namespace BrailleDisplay

variable {T : Type}

namespace Session

variable [Transport T]

/-- The sessions agree but for what they know about keys that are down, for how long their links
have been as they are, and for what was done before. -/
structure Resembles (s u : Session T) : Prop where
  transport : s.line.transport = u.line.transport
  model : s.model = u.model
  config : s.config = u.config
  context : s.context = u.context
  mode : s.keyboard.mode = u.keyboard.mode
  regions : ∀ area, s.image.region area = u.image.region area
  awaits : s.link.state = .identifying ∧ u.link.state = .identifying

instance [DecidableEq T] (s u : Session T) : Decidable (s.Resembles u) :=
  decidable_of_iff
    (s.line.transport = u.line.transport ∧ s.model = u.model ∧ s.config = u.config ∧
      s.context = u.context ∧ s.keyboard.mode = u.keyboard.mode ∧
      (s.image.main = u.image.main ∧ s.image.status = u.image.status) ∧
      s.link.state = .identifying ∧ u.link.state = .identifying)
    ⟨fun ⟨transport, model, config, context, mode, ⟨main, status⟩, awaits⟩ =>
      ⟨transport, model, config, context, mode, fun area => by cases area <;> assumption, awaits⟩,
    fun h => ⟨h.transport, h.model, h.config, h.context, h.mode,
      ⟨h.regions .main, h.regions .status⟩, h.awaits⟩⟩

namespace Resembles

variable {s u : Session T}

/-- Whatever the host does short of polling, the sessions go on agreeing. -/
theorem perform (alike : s.Resembles u) {operation : Operation T}
    (unpolled : operation.elapsed? = none) :
    ∃ outcome s' u', s.perform operation = (outcome, s') ∧ u.perform operation = (outcome, u') ∧
      s'.Resembles u' ∧ s.callsUntil s' = [] ∧ u.callsUntil u' = [] := by
  have quiet {t t' : Session T} (same : t'.line.journal = t.line.journal) :
      t.callsUntil t' = [] := by
    rw [callsUntil, same, List.drop_length]
  cases operation with
  | poll elapsed => cases unpolled
  | setContext context =>
    exact ⟨_, _, _, rfl, rfl, { alike with context := rfl }, quiet rfl, quiet rfl⟩
  | device act =>
    exact ⟨_, _, _, rfl, rfl, { alike with transport := congrArg act alike.transport },
      quiet rfl, quiet rfl⟩
  | write area cells =>
    have busy {t : Session T} (identifying : t.link.state = .identifying) :
        t.link.state ≠ .ready := by simp [identifying]
    rcases Image.write_regions alike.regions area cells with
      ⟨mismatch, refused, refused'⟩ | ⟨first, second, written, written', regions⟩
    · exact ⟨_, _, _, perform_refused refused, perform_refused refused', alike,
        quiet rfl, quiet rfl⟩
    · refine ⟨.done, { s with image := first }, { u with image := second }, ?_, ?_,
        { alike with regions }, quiet rfl, quiet rfl⟩
      · cases area with
        | main =>
          rw [perform_write (write_main written)]
          exact congrArg _ (flush_of_ne (busy alike.awaits.1))
        | status => exact perform_write (write_status written)
      · cases area with
        | main =>
          rw [perform_write (write_main written')]
          exact congrArg _ (flush_of_ne (busy alike.awaits.2))
        | status => exact perform_write (write_status written')

end Resembles

/-- What is left of a session that has read its display's identifier. Only the reading of it is on
record, and the countdown is left open. -/
def afresh (s : Session T) : Session T :=
  { s.readByte.2 with
    line := { s.readByte.2.line with journal := s.callsUntil s.readByte.2 }
    link := { state := .ready }
    image := s.image.markDirty
    keyboard := s.keyboard.clear
    countdown := 0 }

theorem Resembles.answer {s u : Session T} (alike : s.Resembles u) :
    s.readByte.1 = u.readByte.1 := by
  simp only [readByte, Line.readByte, Line.read, alike.transport, alike.config]

theorem Resembles.afresh {s u : Session T} (alike : s.Resembles u) : s.afresh = u.afresh := by
  have image : s.image.markDirty = u.image.markDirty := by
    have main : s.image.main = u.image.main := alike.regions .main
    have status : s.image.status = u.image.status := alike.regions .status
    simp only [Image.markDirty, main, status]
  have keyboard : s.keyboard.clear = u.keyboard.clear := by
    simp only [Keyboard.clear, alike.mode]
  simp [Session.afresh, readByte, Line.readByte, Line.read, Line.after, callsUntil,
    alike.transport, alike.model, alike.config, alike.context, alike.awaits, image, keyboard]

/-- The identifier forgets the keys and how the link came to be. -/
theorem hear_identifier {s : Session T} (supported : s.model ∈ Model.registry)
    (identifying : s.link.state = .identifying) :
    s.hear s.model.identifier = (.handled, { s with
      keyboard := s.keyboard.clear, image := s.image.markDirty, link := { state := .ready } }) := by
  obtain ⟨announce, fault⟩ := Model.identifier_of_mem supported
  have ready : s.link.apply .identified = { state := .ready } := by
    rw [Link.apply_identified identifying]
    simp [Link.enter, identifying]
  simp [hear, hearInState, identifying, announce, fault, apply, ready]

/-- A poll whose first byte is the identifier goes on from what the identifier leaves. -/
theorem poll_named {s : Session T} (supported : s.model ∈ Model.registry)
    (identifying : s.link.state = .identifying)
    (named : s.readByte.1 = .ok (some s.model.identifier)) (elapsed : UInt32) :
    s.poll elapsed = settle ((s.afresh.vary id s.line.journal s.countdown).drain true) := by
  have read : (s.tick elapsed).readByte =
      (.ok (some s.model.identifier), s.readByte.2.tick elapsed) := Prod.ext named rfl
  have heard : (s.readByte.2.tick elapsed).hear s.model.identifier =
      (.handled, s.afresh.vary id s.line.journal s.countdown) := by
    refine (hear_identifier (s := s.readByte.2.tick elapsed) supported identifying).trans ?_
    simp [afresh, vary, Line.vary, callsUntil, readByte, Line.readByte, Line.read, Line.after, tick]
  rw [poll_eq, drain_eq, read]
  simp only [heard]

/-- From the identifier on, a session shows nothing of what it knew about the keys. -/
theorem glimpses_named {s : Session T} (supported : s.model ∈ Model.registry)
    (identifying : s.link.state = .identifying)
    (named : s.readByte.1 = .ok (some s.model.identifier)) (elapsed : UInt32)
    (later : List (Operation T)) :
    let (command, next) := settle (s.afresh.drain true)
    s.glimpses (.poll elapsed :: later) =
      ⟨.polled command, next.line.journal, next.link.state, next.keyboard.mode⟩ ::
        next.glimpses later := by
  have idles : s.afresh.Idles s.countdown := .inr rfl
  obtain ⟨countdown, settled, idles⟩ := settle_drain_vary unseen_id idles s.line.journal true
  have polled : s.poll elapsed =
      (settle (s.afresh.drain true)).map id (·.vary id s.line.journal countdown) :=
    (poll_named supported identifying named elapsed).trans settled
  have unseen := (run_vary (alwaysUnseen_id later) rfl idles s.line.journal).1
  simp only [glimpses, perform, polled, Prod.map_fst, Prod.map_snd, id, link_vary, keyboard_vary,
    unseen]
  simp [callsUntil, vary, Line.vary]

/-- Identification forgets the keys. Two sessions await the identifier and agree but for what they
know about the keys, for how their links came to be and for what the display still has to be told.
If the next poll of both begins with the identifier, then whatever is done to them before and
after, every operation answers alike, makes the same calls and leaves the same link state and
input mode. -/
theorem reidentification_forgets_keys {s u : Session T} (supported : s.model ∈ Model.registry)
    (alike : s.Resembles u) {before : List (Operation T)}
    (unpolled : ∀ operation ∈ before, operation.elapsed? = none)
    (named : (s.run before).2.readByte.1 = .ok (some s.model.identifier))
    (elapsed : UInt32) (later : List (Operation T)) :
    s.glimpses (before ++ .poll elapsed :: later) =
      u.glimpses (before ++ .poll elapsed :: later) := by
  induction before generalizing s u with
  | nil =>
    have named' : u.readByte.1 = .ok (some u.model.identifier) := by
      rw [← alike.answer, ← alike.model]
      exact named
    rw [List.nil_append, glimpses_named supported alike.awaits.1 named, alike.afresh]
    exact (glimpses_named (alike.model ▸ supported) alike.awaits.2 named' elapsed later).symm
  | cons operation before ih =>
    obtain ⟨first, unpolled⟩ := List.forall_mem_cons.mp unpolled
    obtain ⟨outcome, s', u', done, done', alike', calls, calls'⟩ := alike.perform first
    have model : s'.model = s.model := by
      have kept := (s.perform_path operation []).model_eq
      rwa [done] at kept
    have rest := ih (model ▸ supported) alike' unpolled (by
      rw [model]; simpa only [run, done] using named)
    have state : s'.link.state = u'.link.state := alike'.awaits.1.trans alike'.awaits.2.symm
    simp only [List.cons_append, glimpses, done, done', calls, calls', state, alike'.mode, rest]

/-- One session holds a key whose chord is still to be interpreted, the other holds none and has
waited longer. The key is let go after the identifier, which gives nothing in either. -/
theorem reidentification_forgets_keys_chord : ∃ opened : Session ScriptedTransport,
    connect ⟨{ replies := [[0xFE, 0xFE, 0x80]] }, []⟩ {} = .ok opened ∧
    let holding := (opened.run [.device (·.receive [0x03, 0xFE]), .poll 1, .poll 1]).2
    let idle := (opened.run [.device (·.receive [0xFE]), .poll 9, .poll 9, .poll 9]).2
    let rest : List (Operation ScriptedTransport) :=
      [.device (·.receive [0x80, 0x83]), .poll 5, .write .main (List.replicate 20 3), .poll 900]
    holding.keyboard.pending.isSome = true ∧ idle.keyboard.pending.isSome = false ∧
    holding.countdown ≠ idle.countdown ∧ holding.glimpses rest = idle.glimpses rest := by
  let held : List (Operation ScriptedTransport) :=
    [.device (·.receive [0x03, 0xFE]), .poll 1, .poll 1]
  let free : List (Operation ScriptedTransport) :=
    [.device (·.receive [0xFE]), .poll 9, .poll 9, .poll 9]
  let before : List (Operation ScriptedTransport) := [.device (·.receive [0x80, 0x83])]
  obtain ⟨opened, connected⟩ := exists_connect (T := ScriptedTransport)
    ⟨{ replies := [[0xFE, 0xFE, 0x80]] }, []⟩ {} (by decide +kernel)
  have supported : decide ((opened.run held).2.model ∈ Model.registry) = true :=
    of_connect connected (fun s => decide ((s.run held).2.model ∈ Model.registry))
      (by decide +kernel)
  have alike : decide ((opened.run held).2.Resembles (opened.run free).2) = true :=
    of_connect connected (fun s => decide ((s.run held).2.Resembles (s.run free).2))
      (by decide +kernel)
  have named : decide (((opened.run held).2.run before).2.readByte.1 =
      .ok (some (opened.run held).2.model.identifier)) = true :=
    of_connect connected (fun s => decide (((s.run held).2.run before).2.readByte.1 =
      .ok (some (s.run held).2.model.identifier))) (by decide +kernel)
  have pending : (opened.run held).2.keyboard.pending.isSome = true :=
    of_connect connected (fun s => (s.run held).2.keyboard.pending.isSome) (by decide +kernel)
  have unpending : (opened.run free).2.keyboard.pending.isSome = false :=
    of_connect connected (fun s => (s.run free).2.keyboard.pending.isSome) (by decide +kernel)
  have counted : decide ((opened.run held).2.countdown ≠ (opened.run free).2.countdown) = true :=
    of_connect connected (fun s => decide ((s.run held).2.countdown ≠ (s.run free).2.countdown))
      (by decide +kernel)
  have unpolled : ∀ operation ∈ before, operation.elapsed? = none := by decide
  exact ⟨opened, connected, pending, unpending, of_decide_eq_true counted,
    reidentification_forgets_keys (of_decide_eq_true supported) (of_decide_eq_true alike) unpolled
      (of_decide_eq_true named) 5 _⟩

end Session

end BrailleDisplay
