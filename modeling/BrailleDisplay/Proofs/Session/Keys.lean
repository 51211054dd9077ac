import BrailleDisplay.Proofs.Key.Event
import BrailleDisplay.Proofs.Keyboard.History
import BrailleDisplay.Proofs.Session.Opened
import BrailleDisplay.Proofs.Session.Reading
import BrailleDisplay.Proofs.Session.Typing
import BrailleDisplay.Proofs.Session.Writes
import BrailleDisplay.Transport.Script
import Mathlib.Data.Bool.AllAny

/-!
# Keys and signals

The bytes of keys share their space with the signals of the link. On displays with separate keys
none of the keys in use reports a signal. On the Bookworm one combination of buttons does: escape
and enter together report a fault, which stands if nothing follows. Every other key that a connected
display reports reaches its keyboard.
-/
namespace BrailleDisplay

/-- The front keys that a keyset has chords of. -/
def Keyset.frontKeys : Keyset → FrontKeys
  | .modular | .brailleWave => Modular.dotKeys ||| Modular.up ||| Modular.down
  | .brailleStar => BrailleStar.sharedKeys ||| BrailleStar.leftMiddle ||| BrailleStar.rightMiddle

/-- A display of this model reports a key with the byte. -/
def Model.Reports (model : Model) (context : InputContext) (byte : UInt8) : Prop :=
  match model.panel with
  | .bookworm => byte ∈ (Bookworm.table context).map Prod.fst
  | .chords keyset => ∃ event : KeyEvent, event.toByte = byte ∧ event.key.On model.geometry ∧
      ∀ bit, event.key = .front bit → Holds keyset.frontKeys bit

namespace Model

theorem geometry_of_mem {model : Model} (h : model ∈ registry) :
    model.geometry.columns ≤ 80 ∧ model.geometry.statusCells ≤ 13 := by
  revert model
  decide

/-- A byte reported by separate keys is a key event and no signal. -/
theorem Reports.event {model : Model} (supported : model ∈ registry) {keyset : Keyset}
    (panel : model.panel = .chords keyset) {context : InputContext} {byte : UInt8}
    (reported : model.Reports context byte) :
    (∃ event, KeyEvent.ofByte? model.geometry byte = some event) ∧
      byte ≠ Signal.fault ∧ byte ≠ Signal.announce ∧ byte ≠ Signal.taken ∧
      byte ≠ Signal.takenMore := by
  obtain ⟨columns, statusCells⟩ := geometry_of_mem supported
  unfold Reports at reported
  rw [panel] at reported
  obtain ⟨event, rfl, on, used⟩ := reported
  refine ⟨⟨event, (KeyEvent.ofByte?_eq_some_iff columns statusCells on).mpr rfl⟩, fun same => ?_,
    KeyEvent.toByte_ne_signal columns statusCells on⟩
  -- The one key with the code of a fault report is a front key that no keyset uses.
  have unused : ¬ Holds keyset.frontKeys 0x06 := by cases keyset <;> decide
  have low := Key.code_lt columns statusCells on
  have code : event.key.code = 0x06 := by
    rw [← UInt8.toNat_inj, event.toNat_toByte (by omega)] at same
    rw [← UInt8.toNat_inj]
    split_ifs at same <;> simp only [Signal.fault, UInt8.reduceToNat] at same ⊢ <;> omega
  have key := Key.eq_front_of_code_lt columns statusCells on (by rw [code]; decide)
  rw [code] at key
  exact unused (used 0x06 key)

/-- The Bookworm reports no signal but the fault. -/
theorem Reports.buttons {model : Model} (panel : model.panel = .bookworm) {context : InputContext}
    {byte : UInt8} (reported : model.Reports context byte) :
    (∃ command, Bookworm.resolve? context byte = some command) ∧
      byte ≠ Signal.announce ∧ byte ≠ Signal.taken ∧ byte ≠ Signal.takenMore := by
  unfold Reports at reported
  rw [panel] at reported
  have apart : ∀ byte ∈ (Bookworm.table context).map Prod.fst,
      byte ≠ Signal.announce ∧ byte ≠ Signal.taken ∧ byte ≠ Signal.takenMore := by
    cases context <;> exact List.all_iff_forall_prop.mp (by decide)
  refine ⟨?_, apart byte reported⟩
  obtain ⟨entry, listed, rfl⟩ := List.mem_map.mp reported
  rw [← Option.isSome_iff_exists, Bookworm.resolve?, List.lookup_isSome_iff]
  exact ⟨entry, listed, beq_self_eq_true _⟩

end Model

theorem Keystroke.exists_reaction {keystroke : Keystroke} (h : keystroke ≠ .unrecognized) :
    ∃ command, keystroke.reaction = .key command := by
  cases keystroke with
  | command | absorbed => exact ⟨_, rfl⟩
  | unrecognized => exact absurd rfl h

namespace Session

variable {T : Type} [Transport T]

/-- The transport hands over one byte and nothing after it, and takes in full what is written. -/
structure HandsOver (s : Session T) (byte : UInt8) (quiet : T) : Prop where
  read : Transport.read s.line.transport 1 s.config.readTimeout = (.ok [byte], quiet)
  silent : (Transport.awaitReadable quiet s.config.disconnectGrace).1 = false
  empty : (Transport.read (Transport.awaitReadable quiet s.config.disconnectGrace).2 1
    s.config.readTimeout).1 = .ok []
  takes (data : List UInt8) : (Transport.write quiet data).1 = .ok data.length

/-- What is written in full does not end the link. -/
theorem flush_connected {s : Session T} (connected : s.link.state.isConnected = true)
    (takes : ∀ data, (Transport.write s.line.transport data).1 = .ok data.length) :
    s.flush.link.state.isConnected = true := by
  unfold flush transmit
  split_ifs
  · split
    · exact connected
    · next frame _ =>
      have sent : s.send frame.bytes =
          (true, s.after (.write frame.bytes (some frame.bytes.length))
            (Transport.write s.line.transport frame.bytes).2) := by
        simp [send, Line.send, takes, Except.toOption, after]
      have state : s.link.state = .ready ∨ s.link.state = .writing := by
        cases state : s.link.state <;> simp_all [LinkState.isConnected]
      rw [sent]
      simp [apply, after, Link.apply_frameSent state, LinkState.isConnected]
  · exact connected

/-- While the session is connected, a byte that is no signal comes from the keys. -/
theorem hear_connected {s : Session T} (connected : s.link.state.isConnected = true)
    {byte : UInt8} (fault : byte ≠ Signal.fault) (announce : byte ≠ Signal.announce)
    (taken : byte ≠ Signal.taken) (takenMore : byte ≠ Signal.takenMore) :
    s.hear byte = s.hearKey byte := by
  simp only [hear, fault, announce, false_and, if_false]
  exact hearInState_connected connected taken takenMore

theorem hear_fault {s : Session T} (up : s.link.state ≠ .off)
    (silent : (Transport.awaitReadable s.line.transport s.config.disconnectGrace).1 = false) :
    s.hear Signal.fault = (.handled, (s.after (.await s.config.disconnectGrace false)
      (Transport.awaitReadable s.line.transport s.config.disconnectGrace).2).apply
        .disconnected) := by
  have awaited : s.awaitMore = (false, s.after (.await s.config.disconnectGrace false)
      (Transport.awaitReadable s.line.transport s.config.disconnectGrace).2) := by
    simp only [awaitMore, Line.await, silent]
    rfl
  rw [hear, if_pos ⟨rfl, up⟩, awaited]

/-- Nothing is drained from a transport that gives nothing. -/
theorem drain_nothing {s : Session T} {quiet : T}
    (empty : Transport.read s.line.transport 1 s.config.readTimeout = (.ok [], quiet))
    (heard : Bool) :
    s.drain heard = (.dry heard, s.after (.read 1 s.config.readTimeout (some [])) quiet) := by
  have read : s.readByte = (.ok none, s.after (.read 1 s.config.readTimeout (some [])) quiet) := by
    simp only [readByte, Line.readByte, Line.read, empty]
    rfl
  rw [drain_eq, read]

namespace HandsOver

variable {s : Session T} {byte : UInt8} {quiet : T}

theorem readByte (handed : s.HandsOver byte quiet) (elapsed : UInt32) :
    (s.tick elapsed).readByte =
      (.ok (some byte),
        (s.tick elapsed).after (.read 1 s.config.readTimeout (some [byte])) quiet) := by
  simp only [Session.readByte, Line.readByte, Line.read, tick, handed.read]
  rfl

/-- A byte from the keys ends the poll, and the session stays connected. -/
theorem poll_key (handed : s.HandsOver byte quiet) (connected : s.link.state.isConnected = true)
    (plain : byte ≠ Signal.fault ∧ byte ≠ Signal.announce ∧ byte ≠ Signal.taken ∧
      byte ≠ Signal.takenMore) (elapsed : UInt32) {command : Option Command}
    (pressed : (s.keyboard.decode s.model s.context byte).1.reaction = .key command) :
    (s.poll elapsed).1 = command ∧
      (s.poll elapsed).2.keyboard = (s.keyboard.decode s.model s.context byte).2 ∧
      (s.poll elapsed).2.link.state.isConnected = true := by
  obtain ⟨fault, announce, taken, takenMore⟩ := plain
  let t := (s.tick elapsed).after (.read 1 s.config.readTimeout (some [byte])) quiet
  have heard : t.hear byte = t.hearKey byte :=
    hear_connected (s := t) connected fault announce taken takenMore
  have reaction : (t.hearKey byte).1 = .key command := pressed
  have drained : (s.tick elapsed).drain false = (.key command, (t.hearKey byte).2) := by
    rw [drain_eq, handed.readByte]
    dsimp only
    rw [heard, reaction]
  have polled : s.poll elapsed =
      (command, { (t.hearKey byte).2 with countdown := s.config.repeatDelay }.flush) := by
    simp only [poll, drained]
    rfl
  rw [polled]
  refine ⟨rfl, ?_, flush_connected connected handed.takes⟩
  exact congrArg Typing.keyboard (typing_flush _)

/-- A fault report that nothing follows ends the link. -/
theorem poll_fault (handed : s.HandsOver Signal.fault quiet)
    (connected : s.link.state.isConnected = true) (elapsed : UInt32) :
    (s.poll elapsed).1 = none ∧ (s.poll elapsed).2.link.state = .off := by
  have up : (s.link.tick elapsed).state ≠ .off := by
    intro off
    simp only [Link.state_tick] at off
    simp [off, LinkState.isConnected] at connected
  have heard := hear_fault
    (s := (s.tick elapsed).after (.read 1 s.config.readTimeout (some [Signal.fault])) quiet)
    up handed.silent
  have drained : ∃ t, (s.tick elapsed).drain false = (.dry true, t) ∧ t.link.state = .off := by
    rw [drain_eq, handed.readByte]
    dsimp only
    rw [heard]
    dsimp only
    have off : ((s.link.tick elapsed).apply .disconnected).state = .off := by
      rw [Link.apply_disconnected up, Link.state_enter]
    exact ⟨_, drain_nothing (Prod.ext handed.empty rfl) true, off⟩
  obtain ⟨t, drained, off⟩ := drained
  have apart : t.link.state.isConnected = false := by rw [off]; rfl
  have unflushed : t.flush = t := flush_of_ne (by simp [off])
  simp only [poll, drained, unflushed, autorepeat_link, off, and_true]
  exact (autorepeat_apart apart).1

end HandsOver

/-- What a connected display reports with its keys reaches its keyboard. The byte arrives alone, and
what is written is taken in full. The poll then answers what the keyboard makes of the byte, and the
session stays connected. Escape and enter on the Bookworm are the exception: their byte reports a
fault, which ends the link as nothing follows. -/
theorem keys_are_heard {s : Session T} (supported : s.model ∈ Model.registry)
    (connected : s.link.state.isConnected = true) {byte : UInt8}
    (reported : s.model.Reports s.context byte) {quiet : T} (handed : s.HandsOver byte quiet)
    (elapsed : UInt32) :
    if s.model.panel = .bookworm ∧ byte = Bookworm.escape ||| Bookworm.enter then
      (s.poll elapsed).1 = none ∧ (s.poll elapsed).2.link.state = .off
    else
      ∃ command, (s.keyboard.decode s.model s.context byte).1.reaction = .key command ∧
        (s.poll elapsed).1 = command ∧
        (s.poll elapsed).2.keyboard = (s.keyboard.decode s.model s.context byte).2 ∧
        (s.poll elapsed).2.link.state.isConnected = true := by
  split_ifs with exempt
  · obtain ⟨_, rfl⟩ := exempt
    exact handed.poll_fault connected elapsed
  · cases panel : s.model.panel with
    | bookworm =>
      obtain ⟨⟨command, bound⟩, announce, taken, takenMore⟩ := reported.buttons panel
      have fault : byte ≠ Signal.fault := fun same => exempt ⟨panel, same⟩
      have pressed :
          (s.keyboard.decode s.model s.context byte).1.reaction = .key (some command) := by
        simp [Keyboard.decode, panel, bound, Keystroke.reaction]
      exact ⟨_, pressed,
        handed.poll_key connected ⟨fault, announce, taken, takenMore⟩ elapsed pressed⟩
    | chords keyset =>
      obtain ⟨⟨event, found⟩, plain⟩ := reported.event supported panel
      have recognized : (s.keyboard.decode s.model s.context byte).1 ≠ .unrecognized := by
        simp only [Keyboard.decode, panel, Keyboard.decodeChord, found]
        exact Keyboard.event_ne_unrecognized keyset _ event
      obtain ⟨command, pressed⟩ := Keystroke.exists_reaction recognized
      exact ⟨command, pressed, handed.poll_key connected plain elapsed pressed⟩

/-- A scripted transport with nothing but one byte waiting hands that byte over. -/
theorem handsOver_script {s : Session ScriptedTransport} {byte : UInt8}
    (waiting : s.line.transport = { incoming := [byte] }) : s.HandsOver byte {} where
  read := by rw [waiting]; rfl
  silent := rfl
  empty := rfl
  takes _ := rfl

/-- A routing key is pressed while the last frame is not acknowledged yet. -/
theorem keys_are_heard_routing : ∃ opened : Session ScriptedTransport,
    connect ⟨{ replies := [[0xFE, 0xFE, 0x80]] }, []⟩ {} = .ok opened ∧
    let session :=
      (opened.run [.write .main (List.replicate 20 3), .device (·.receive [0x20])]).2
    session.link.state = .writing ∧ session.model.Reports session.context 0x20 ∧
    session.HandsOver 0x20 {} ∧ (session.poll 5).1 = some (.atColumn .route 0) ∧
    (session.poll 5).2.link.state.isConnected = true := by
  let before : List (Operation ScriptedTransport) :=
    [.write .main (List.replicate 20 3), .device (·.receive [0x20])]
  obtain ⟨opened, connected⟩ := exists_connect (T := ScriptedTransport)
    ⟨{ replies := [[0xFE, 0xFE, 0x80]] }, []⟩ {} (by decide +kernel)
  have model : (opened.run before).2.model = Model.modular20 :=
    of_connect connected (fun s => (s.run before).2.model) (by decide +kernel)
  have config : (opened.run before).2.config = {} :=
    of_connect connected (fun s => (s.run before).2.config) (by decide +kernel)
  have transport : (opened.run before).2.line.transport = { incoming := [0x20] } :=
    of_connect connected (fun s => (s.run before).2.line.transport) (by decide +kernel)
  have writing : (opened.run before).2.link.state = .writing :=
    of_connect connected (fun s => (s.run before).2.link.state) (by decide +kernel)
  have given : ((opened.run before).2.keyboard.decode (opened.run before).2.model
      (opened.run before).2.context 0x20).1.reaction = .key (some (.atColumn .route 0)) :=
    of_connect connected (fun s => ((s.run before).2.keyboard.decode (s.run before).2.model
      (s.run before).2.context 0x20).1.reaction) (by decide +kernel)
  have reported : (opened.run before).2.model.Reports (opened.run before).2.context 0x20 := by
    rw [model]
    exact ⟨⟨.routing 0, false⟩, rfl, by decide, nofun⟩
  have handed := handsOver_script transport
  have supported : (opened.run before).2.model ∈ Model.registry := by
    rw [model]
    decide
  have separate : ¬ ((opened.run before).2.model.panel = .bookworm ∧
      (0x20 : UInt8) = Bookworm.escape ||| Bookworm.enter) := by
    rw [model]
    decide
  have heard := keys_are_heard supported (by rw [writing]; rfl) reported handed 5
  rw [if_neg separate] at heard
  obtain ⟨command, reaction, polled, _, up⟩ := heard
  rw [given] at reaction
  cases reaction
  exact ⟨opened, connected, writing, reported, handed, polled, up⟩

/-- Escape and enter open the preferences menu of a Bookworm as far as its buttons are concerned.
The byte that reports them is taken for a fault report. -/
theorem escape_enter_ends_the_link : ∃ opened : Session ScriptedTransport,
    connect ⟨{ replies := [[0xFE, 0xFE, 0x90]] }, []⟩ {} = .ok opened ∧
    let session := (opened.run [.device (·.receive [0x06])]).2
    session.model ∈ Model.registry ∧ session.link.state = .ready ∧
    session.model.Reports session.context 0x06 ∧ session.HandsOver 0x06 {} ∧
    (session.keyboard.decode session.model session.context 0x06).1 =
      .command (.perform .prefMenu) ∧
    (session.poll 0).1 = none ∧ (session.poll 0).2.link.state = .off := by
  let before : List (Operation ScriptedTransport) := [.device (·.receive [0x06])]
  obtain ⟨opened, connected⟩ := exists_connect (T := ScriptedTransport)
    ⟨{ replies := [[0xFE, 0xFE, 0x90]] }, []⟩ {} (by decide +kernel)
  have model : (opened.run before).2.model = Model.bookworm :=
    of_connect connected (fun s => (s.run before).2.model) (by decide +kernel)
  have context : (opened.run before).2.context = .normal :=
    of_connect connected (fun s => (s.run before).2.context) (by decide +kernel)
  have transport : (opened.run before).2.line.transport = { incoming := [0x06] } :=
    of_connect connected (fun s => (s.run before).2.line.transport) (by decide +kernel)
  have ready : (opened.run before).2.link.state = .ready :=
    of_connect connected (fun s => (s.run before).2.link.state) (by decide +kernel)
  have polled : (((opened.run before).2.poll 0).1, ((opened.run before).2.poll 0).2.link.state) =
      (none, .off) :=
    of_connect connected
      (fun s => (((s.run before).2.poll 0).1, ((s.run before).2.poll 0).2.link.state))
      (by decide +kernel)
  obtain ⟨silent, off⟩ := Prod.mk.inj polled
  refine ⟨opened, connected, ?_, ready, ?_, handsOver_script transport, ?_, silent, off⟩
  · rw [model]
    decide
  · rw [model, context]
    show (0x06 : UInt8) ∈ Bookworm.normalTable.map Prod.fst
    decide
  · rw [model, context]
    rfl

end Session

end BrailleDisplay
