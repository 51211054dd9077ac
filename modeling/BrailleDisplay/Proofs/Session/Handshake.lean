import BrailleDisplay.Proofs.Session.Opened
import BrailleDisplay.Transport.Script

/-!
# Opening as a handshake

What opening does, told from the answers of the transport alone. `Replies` is how the bytes of one
reply come in, `Attempt` is one attempt and what it settles, `Opens` is the attempts one after the
other. All of them name the calls that are made. Opening a session follows this reference: it makes
the same calls and comes to the same end.
-/
namespace BrailleDisplay

variable {T : Type}

/-- How a reset ended. -/
def Call.reset? : Call → Option Bool
  | .reset _ done => some done
  | _ => none

/-- What is handed over to be written. -/
def Call.written? : Call → Option (List UInt8)
  | .write data _ => some data
  | _ => none

/-- The line after calls that were made before there was a link. -/
def Line.unlinked (line : Line T) (calls : List Call) (transport : T) : Line T :=
  { transport, journal := line.journal ++ calls.map (⟨.off, ·⟩) }

theorem Line.unlinked_nil (line : Line T) : line.unlinked [] line.transport = line := by
  simp [unlinked]

theorem Line.unlinked_unlinked (line : Line T) (calls more : List Call) (first second : T) :
    (line.unlinked calls first).unlinked more second = line.unlinked (calls ++ more) second := by
  simp [unlinked]

namespace Handshake

/-- What an attempt settles. -/
inductive Verdict where
  | fatal (fault : TransportFault)
  | again
  | named (identifier : UInt8)

variable [Transport T]

/-- Bytes are read until three are held or a read gives none. What is held in the end is the reply;
there is none if a read fails. -/
inductive Replies (config : Config) :
    List UInt8 → T → List Call → T → Option (List UInt8) → Prop where
  | whole {held : List UInt8} (t : T) (enough : 3 ≤ held.length) :
      Replies config held t [] t (some held)
  | failed {held : List UInt8} {t t' : T} {fault : TransportFault} (short : held.length < 3)
      (read : Transport.read t (3 - held.length) config.readTimeout = (.error fault, t')) :
      Replies config held t [.read (3 - held.length) config.readTimeout none] t' none
  | dry {held : List UInt8} {t t' : T} (short : held.length < 3)
      (read : Transport.read t (3 - held.length) config.readTimeout = (.ok [], t')) :
      Replies config held t [.read (3 - held.length) config.readTimeout (some [])] t' (some held)
  | piece {held bytes : List UInt8} {t t' t'' : T} {calls : List Call}
      {reply : Option (List UInt8)} (short : held.length < 3)
      (read : Transport.read t (3 - held.length) config.readTimeout = (.ok bytes, t'))
      (some : bytes ≠ []) (later : Replies config (held ++ bytes) t' calls t'' reply) :
      Replies config held t
        (.read (3 - held.length) config.readTimeout (.some bytes) :: calls) t'' reply

/-- The transport is reset, and the display is asked once. -/
inductive Attempt (config : Config) : T → List Call → T → Verdict → Prop where
  | unreset {t t' : T} {fault : TransportFault}
      (reset : Transport.reset t config.serial = (.error fault, t')) :
      Attempt config t [.reset config.serial false] t' (.fatal fault)
  | unasked {t t₁ t₂ : T} {accepted : Except TransportFault Nat}
      (reset : Transport.reset t config.serial = (.ok (), t₁))
      (asked : Transport.write t₁ [Signal.describe] = (accepted, t₂))
      (cut : accepted.toOption ≠ some 1) :
      Attempt config t
        [.reset config.serial true, .write [Signal.describe] accepted.toOption] t₂ .again
  | unanswered {t t₁ t₂ t₃ : T} (reset : Transport.reset t config.serial = (.ok (), t₁))
      (asked : Transport.write t₁ [Signal.describe] = (.ok 1, t₂))
      (waited : Transport.awaitReadable t₂ config.identifyWait = (false, t₃)) :
      Attempt config t
        [.reset config.serial true, .write [Signal.describe] (some 1),
          .await config.identifyWait false] t₃ .again
  | garbled {t t₁ t₂ t₃ t₄ : T} {calls : List Call} {reply : Option (List UInt8)}
      (reset : Transport.reset t config.serial = (.ok (), t₁))
      (asked : Transport.write t₁ [Signal.describe] = (.ok 1, t₂))
      (waited : Transport.awaitReadable t₂ config.identifyWait = (true, t₃))
      (replies : Replies config [] t₃ calls t₄ reply)
      (improper : ∀ identifier, reply ≠ some [Signal.announce, Signal.announce, identifier]) :
      Attempt config t
        (.reset config.serial true :: .write [Signal.describe] (some 1) ::
          .await config.identifyWait true :: calls) t₄ .again
  | answered {t t₁ t₂ t₃ t₄ : T} {calls : List Call} {identifier : UInt8}
      (reset : Transport.reset t config.serial = (.ok (), t₁))
      (asked : Transport.write t₁ [Signal.describe] = (.ok 1, t₂))
      (waited : Transport.awaitReadable t₂ config.identifyWait = (true, t₃))
      (replies : Replies config [] t₃ calls t₄
        (some [Signal.announce, Signal.announce, identifier])) :
      Attempt config t
        (.reset config.serial true :: .write [Signal.describe] (some 1) ::
          .await config.identifyWait true :: calls) t₄ (.named identifier)

/-- Attempts are made, at most as many as are allowed, up to the first one that settles the
matter. -/
inductive Opens (config : Config) :
    (allowed : Nat) → T → List Call → T → Except OpenError Model → Prop where
  | spent (t : T) : Opens config 0 t [] t (.error .noResponse)
  | fatal (allowed : Nat) {t t' : T} {calls : List Call} {fault : TransportFault}
      (attempt : Attempt config t calls t' (.fatal fault)) :
      Opens config (allowed + 1) t calls t' (.error (.transport fault))
  | known (allowed : Nat) {t t' : T} {calls : List Call} {model : Model}
      (attempt : Attempt config t calls t' (.named model.identifier))
      (known : model ∈ Model.registry) : Opens config (allowed + 1) t calls t' (.ok model)
  | unknown (allowed : Nat) {t t' : T} {calls : List Call} {identifier : UInt8}
      (attempt : Attempt config t calls t' (.named identifier))
      (unknown : ∀ model ∈ Model.registry, model.identifier ≠ identifier) :
      Opens config (allowed + 1) t calls t' (.error (.unknownModel identifier))
  | again {allowed : Nat} {t t' t'' : T} {calls more : List Call}
      {result : Except OpenError Model} (attempt : Attempt config t calls t' .again)
      (later : Opens config allowed t' more t'' result) :
      Opens config (allowed + 1) t (calls ++ more) t'' result

/-- How the attempts go on after one of them. -/
def Verdict.outcome (config : Config) (allowed : Nat) (line : Line T) :
    Verdict → Except OpenError UInt8 × Line T
  | .fatal fault => (.error (.transport fault), line)
  | .again => line.handshake config allowed
  | .named identifier => (.ok identifier, line)

end Handshake

open Handshake

namespace Line

variable [Transport T]

/-! ## The functions follow the reference -/

theorem read_unlinked {line : Line T} {limit : Nat} {timeout : UInt32} {t' : T}
    {answer : Except TransportFault (List UInt8)}
    (h : Transport.read line.transport limit timeout = (answer, t')) :
    line.read .off limit timeout =
      (answer, line.unlinked [.read limit timeout answer.toOption] t') := by
  simp only [read, h]
  rfl

theorem reset_unlinked {line : Line T} {settings : LineSettings} {t' : T}
    {answer : Except TransportFault Unit}
    (h : Transport.reset line.transport settings = (answer, t')) :
    line.reset .off settings =
      (answer, line.unlinked [.reset settings answer.toOption.isSome] t') := by
  simp only [reset, h]
  rfl

theorem send_unlinked {line : Line T} {data : List UInt8} {t' : T}
    {answer : Except TransportFault Nat} (h : Transport.write line.transport data = (answer, t')) :
    line.send .off data = (answer.toOption == some data.length,
      line.unlinked [.write data answer.toOption] t') := by
  simp only [send, h]
  rfl

theorem await_unlinked (line : Line T) {timeout : UInt32} {t' : T} {readable : Bool}
    (h : Transport.awaitReadable line.transport timeout = (readable, t')) :
    line.await .off timeout = (readable, line.unlinked [.await timeout readable] t') := by
  simp only [await, h]
  rfl

theorem collect_of_replies {config : Config} {held : List UInt8} {t t' : T} {calls : List Call}
    {reply : Option (List UInt8)} (replies : Replies config held t calls t' reply) (line : Line T)
    (here : line.transport = t) :
    ∃ answer, line.collect .off config.readTimeout (3 - held.length) =
      (answer, line.unlinked calls t') ∧ answer.toOption.map (held ++ ·) = reply := by
  have missing {held : List UInt8} (short : held.length < 3) :
      ∃ missing, 3 - held.length = missing + 1 := ⟨2 - held.length, by omega⟩
  induction replies generalizing line with
  | whole t enough =>
    subst here
    rw [Nat.sub_eq_zero_of_le enough, collect, unlinked_nil]
    exact ⟨_, rfl, by simp [Except.toOption]⟩
  | failed short read =>
    subst here
    obtain ⟨missing, count⟩ := missing short
    rw [count] at read ⊢
    rw [collect, read_unlinked read]
    exact ⟨_, rfl, rfl⟩
  | dry short read =>
    subst here
    obtain ⟨missing, count⟩ := missing short
    rw [count] at read ⊢
    rw [collect, read_unlinked read]
    exact ⟨_, rfl, by simp [Except.toOption]⟩
  | @piece held bytes t t₁ t₂ calls reply short read some later ih =>
    subst here
    obtain ⟨missing, count⟩ := missing short
    obtain ⟨answer, collected, same⟩ := ih
      (line.unlinked [.read (3 - held.length) config.readTimeout (.some bytes)] t₁) rfl
    rw [count] at read
    rw [unlinked_unlinked, List.singleton_append] at collected
    obtain ⟨byte, bytes, rfl⟩ := List.exists_cons_of_ne_nil some
    have rest : 3 - (held ++ byte :: bytes).length = missing - bytes.length := by
      simp only [List.length_append, List.length_cons]
      omega
    rw [rest] at collected
    rw [count] at collected ⊢
    rw [collect, read_unlinked read]
    dsimp only [Except.toOption]
    rw [collected]
    refine ⟨_, rfl, ?_⟩
    rw [← same]
    cases answer <;> simp [Except.toOption, Except.map]

theorem identifier?_eq_some {reply : List UInt8} {identifier : UInt8} :
    identifier? reply = some identifier ↔
      reply = [Signal.announce, Signal.announce, identifier] := by
  unfold identifier?
  split
  · split_ifs <;> simp_all
  · next improper =>
    refine iff_of_false nofun ?_
    rintro rfl
    exact improper _ _ _ rfl

/-- A request that is not taken in full gets no answer. -/
theorem identify_cut {config : Config} {line : Line T} {t₁ : T}
    {accepted : Except TransportFault Nat}
    (asked : Transport.write line.transport [Signal.describe] = (accepted, t₁))
    (cut : accepted.toOption ≠ some 1) :
    line.identify config =
      (none, line.unlinked [.write [Signal.describe] accepted.toOption] t₁) := by
  have unsent : (accepted.toOption == some [Signal.describe].length) = false :=
    beq_eq_false_iff_ne.mpr cut
  rw [identify, send_unlinked asked, unsent]

theorem identify_unanswered {config : Config} {line : Line T} {t₁ t₂ : T}
    (asked : Transport.write line.transport [Signal.describe] = (.ok 1, t₁))
    (waited : Transport.awaitReadable t₁ config.identifyWait = (false, t₂)) :
    line.identify config = (none, line.unlinked
      [.write [Signal.describe] (some 1), .await config.identifyWait false] t₂) := by
  have awaited := await_unlinked (line.unlinked [.write [Signal.describe] (some 1)] t₁) waited
  rw [unlinked_unlinked] at awaited
  rw [identify, send_unlinked asked]
  simp only [Except.toOption, List.length_singleton, beq_self_eq_true, awaited]
  rfl

/-- A display that is asked and does answer names an identifier exactly in a proper reply. -/
theorem identify_of_replies {config : Config} (line : Line T) {t₁ t₂ t₃ : T} {calls : List Call}
    {reply : Option (List UInt8)}
    (asked : Transport.write line.transport [Signal.describe] = (.ok 1, t₁))
    (waited : Transport.awaitReadable t₁ config.identifyWait = (true, t₂))
    (replies : Replies config [] t₂ calls t₃ reply) :
    line.identify config = (reply.bind identifier?, line.unlinked
      (.write [Signal.describe] (some 1) :: .await config.identifyWait true :: calls) t₃) := by
  obtain ⟨answer, collected, same⟩ := collect_of_replies replies
    (line.unlinked [.write [Signal.describe] (some 1), .await config.identifyWait true] t₂) rfl
  have sent := send_unlinked asked
  have awaited := await_unlinked (line.unlinked [.write [Signal.describe] (some 1)] t₁) waited
  simp only [unlinked_unlinked, List.cons_append, List.nil_append] at awaited collected
  have collected : (line.unlinked [.write [Signal.describe] (some 1),
      .await config.identifyWait true] t₂).collect .off config.readTimeout replyLength = _ :=
    collected
  rw [identify, sent]
  simp only [Except.toOption, List.length_singleton, beq_self_eq_true, awaited, collected]
  subst same
  cases answer <;> simp [Except.toOption]

theorem handshake_reset {config : Config} {line : Line T} {t₁ t₂ : T} {calls : List Call}
    (named : Option UInt8) (reset : Transport.reset line.transport config.serial = (.ok (), t₁))
    (asked : (line.unlinked [.reset config.serial true] t₁).identify config =
      (named, (line.unlinked [.reset config.serial true] t₁).unlinked calls t₂)) (allowed : Nat) :
    line.handshake config (allowed + 1) =
      (named.elim Verdict.again Verdict.named).outcome config allowed
        (line.unlinked (.reset config.serial true :: calls) t₂) := by
  rw [unlinked_unlinked, List.singleton_append] at asked
  rw [handshake, reset_unlinked reset]
  dsimp only [Except.toOption, Option.isSome]
  rw [asked]
  cases named <;> rfl

theorem handshake_of_attempt {config : Config} {t t' : T} {calls : List Call} {verdict : Verdict}
    (attempt : Attempt config t calls t' verdict) {line : Line T} (here : line.transport = t)
    (allowed : Nat) :
    line.handshake config (allowed + 1) =
      verdict.outcome config allowed (line.unlinked calls t') := by
  subst here
  cases attempt with
  | unreset reset =>
    rw [handshake, reset_unlinked reset]
    rfl
  | unasked reset asked cut =>
    exact handshake_reset none reset (identify_cut asked cut) allowed
  | unanswered reset asked waited =>
    exact handshake_reset none reset (identify_unanswered asked waited) allowed
  | garbled reset asked waited replies improper =>
    have identified := identify_of_replies
      (line.unlinked [.reset config.serial true] _) asked waited replies
    rename_i reply
    have unnamed : reply.bind identifier? = none := by
      rw [Option.bind_eq_none_iff]
      intro bytes same
      rw [Option.eq_none_iff_forall_ne_some]
      intro identifier named
      exact improper identifier (same.trans (congrArg some (identifier?_eq_some.mp named)))
    exact handshake_reset none reset (unnamed ▸ identified) allowed
  | answered reset asked waited replies =>
    exact handshake_reset (some _) reset
      (identify_of_replies _ asked waited replies) allowed

end Line

namespace Handshake

variable [Transport T] {config : Config}

/-! ## There is always an end -/

theorem exists_replies (config : Config) (held : List UInt8) (t : T) :
    ∃ calls t' reply, Replies config held t calls t' reply := by
  by_cases short : held.length < 3
  · cases read : Transport.read t (3 - held.length) config.readTimeout with
    | mk answer t' =>
      cases answer with
      | error fault => exact ⟨_, _, _, .failed short read⟩
      | ok bytes =>
        by_cases empty : bytes = []
        · subst empty
          exact ⟨_, _, _, .dry short read⟩
        · obtain ⟨calls, t'', reply, later⟩ := exists_replies config (held ++ bytes) t'
          exact ⟨_, _, _, .piece short read empty later⟩
  · exact ⟨_, _, _, .whole t (Nat.le_of_not_lt short)⟩
termination_by 3 - held.length
decreasing_by
  have := List.length_pos_iff.mpr empty
  rw [List.length_append]
  omega

theorem exists_attempt (config : Config) (t : T) :
    ∃ calls t' verdict, Attempt config t calls t' verdict := by
  cases reset : Transport.reset t config.serial with
  | mk answer t₁ =>
    cases answer with
    | error fault => exact ⟨_, _, _, .unreset reset⟩
    | ok =>
      cases asked : Transport.write t₁ [Signal.describe] with
      | mk accepted t₂ =>
        by_cases cut : accepted.toOption = some 1
        · obtain rfl : accepted = .ok 1 := by
            cases accepted <;> simp_all [Except.toOption]
          cases waited : Transport.awaitReadable t₂ config.identifyWait with
          | mk readable t₃ =>
            cases readable with
            | false => exact ⟨_, _, _, .unanswered reset asked waited⟩
            | true =>
              obtain ⟨calls, t₄, reply, replies⟩ := exists_replies config [] t₃
              by_cases proper :
                  ∃ identifier, reply = some [Signal.announce, Signal.announce, identifier]
              · obtain ⟨identifier, rfl⟩ := proper
                exact ⟨_, _, _, .answered reset asked waited replies⟩
              · exact ⟨_, _, _, .garbled reset asked waited replies (not_exists.mp proper)⟩
        · exact ⟨_, _, _, .unasked reset asked cut⟩

theorem exists_opens (config : Config) (allowed : Nat) (t : T) :
    ∃ calls t' result, Opens config allowed t calls t' result := by
  induction allowed generalizing t with
  | zero => exact ⟨_, _, _, .spent t⟩
  | succ allowed ih =>
    obtain ⟨calls, t', verdict, attempt⟩ := exists_attempt config t
    cases verdict with
    | fatal fault => exact ⟨_, _, _, .fatal allowed attempt⟩
    | again =>
      obtain ⟨more, t'', result, later⟩ := ih t'
      exact ⟨_, _, _, .again attempt later⟩
    | named identifier =>
      by_cases known : ∃ model ∈ Model.registry, model.identifier = identifier
      · obtain ⟨model, known, rfl⟩ := known
        exact ⟨_, _, _, .known allowed attempt known⟩
      · refine ⟨_, _, _, .unknown allowed attempt fun model listed same => ?_⟩
        exact known ⟨model, listed, same⟩

/-! ## What is called -/

theorem Replies.only_reads {held : List UInt8} {t t' : T} {calls : List Call}
    {reply : Option (List UInt8)} (replies : Replies config held t calls t' reply) :
    calls.filterMap Call.reset? = [] ∧ calls.filterMap Call.written? = [] := by
  induction replies with
  | whole | failed | dry => exact ⟨rfl, rfl⟩
  | piece short read some later ih => exact ih

/-- An attempt whose reset fails does not ask. -/
theorem Attempt.unasked_of_fatal {t t' : T} {calls : List Call} {fault : TransportFault}
    (attempt : Attempt config t calls t' (.fatal fault)) :
    calls.filterMap Call.reset? = [false] ∧ calls.filterMap Call.written? = [] := by
  cases attempt with
  | unreset => exact ⟨rfl, rfl⟩

/-- Any other attempt asks once. -/
theorem Attempt.asked_once {t t' : T} {calls : List Call} {verdict : Verdict}
    (attempt : Attempt config t calls t' verdict) (mild : ∀ fault, verdict ≠ .fatal fault) :
    calls.filterMap Call.reset? = [true] ∧
      calls.filterMap Call.written? = [[Signal.describe]] := by
  cases attempt with
  | unreset => exact absurd rfl (mild _)
  | unasked | unanswered => exact ⟨rfl, rfl⟩
  | garbled _ _ _ replies | answered _ _ _ replies =>
    obtain ⟨resets, written⟩ := replies.only_reads
    exact ⟨congrArg (List.cons true) resets, congrArg (List.cons [Signal.describe]) written⟩

/-- Opening asked this many times. -/
structure Asked (allowed asked : Nat) (calls : List Call) (result : Except OpenError Model) :
    Prop where
  /-- Every attempt asks, but for one whose reset fails. -/
  resets : calls.filterMap Call.reset? = List.replicate asked true ++
    match result with
    | .error (.transport _) => [false]
    | _ => []
  /-- Nothing else is written. -/
  written : calls.filterMap Call.written? = List.replicate asked [Signal.describe]
  within : (calls.filterMap Call.reset?).length ≤ allowed
  /-- To get no response takes all attempts. -/
  exhausted : result = .error .noResponse → asked = allowed

theorem Opens.asked {allowed : Nat} {t t' : T} {calls : List Call}
    {result : Except OpenError Model} (opens : Opens config allowed t calls t' result) :
    ∃ asked, Asked allowed asked calls result := by
  induction opens with
  | spent t => exact ⟨0, rfl, rfl, Nat.le_refl 0, fun _ => rfl⟩
  | fatal allowed attempt =>
    obtain ⟨resets, written⟩ := attempt.unasked_of_fatal
    exact ⟨0, resets, written, by simp [resets], nofun⟩
  | known allowed attempt | unknown allowed attempt =>
    obtain ⟨resets, written⟩ := attempt.asked_once nofun
    exact ⟨1, resets, written, by simp [resets], nofun⟩
  | again attempt later ih =>
    obtain ⟨resets, written⟩ := attempt.asked_once nofun
    obtain ⟨asked, h⟩ := ih
    refine ⟨asked + 1, ?_, ?_, ?_, fun spent => congrArg (· + 1) (h.exhausted spent)⟩
    · rw [List.filterMap_append, resets, h.resets]
      rfl
    · rw [List.filterMap_append, written, h.written]
      rfl
    · rw [List.filterMap_append, resets, List.length_append]
      have := h.within
      simp only [List.length_singleton]
      omega

end Handshake

namespace Session

/-! ## Opening -/

/-- A session that was just opened. -/
def opened (line : Line T) (config : Config) (model : Model) : Session T where
  line
  model
  config
  link := { state := .ready, elapsed := 0, retries := 0 }
  image :=
    { main :=
        { cells := blankRow model.columns.toNat
          native := blankRow model.columns.toNat
          written := false }
      status :=
        { cells := blankRow model.statusCells.toNat
          native := blankRow model.statusCells.toNat
          written := false }
      dirty := false }
  keyboard := { held := {}, pending := none, mode := .commands }
  context := .normal
  countdown := config.repeatDelay

/-- What opening comes to. -/
def opening (line : Line T) (config : Config) :
    Except OpenError Model → Except (Refusal T) (Session T)
  | .error error => .error ⟨error, line⟩
  | .ok model => .ok (opened line config model)

theorem start_of_mem {model : Model} (known : model ∈ Model.registry) (line : Line T)
    (config : Config) : start line config model.identifier = .ok (opened line config model) := by
  have found : ∀ model ∈ Model.registry, Model.find? model.identifier = some model := by decide
  have fits : ∀ model ∈ Model.registry, model.cellsIn .main ≤ Area.capacity .main ∧
      model.cellsIn .status ≤ Area.capacity .status := by decide
  obtain ⟨main, status⟩ := fits model known
  simp only [start, found model known, Image.blank, Image.blankRegion, if_pos main, if_pos status]
  rfl

theorem start_of_unknown {identifier : UInt8}
    (unknown : ∀ model ∈ Model.registry, model.identifier ≠ identifier) (line : Line T)
    (config : Config) : start line config identifier = .error (.unknownModel identifier) := by
  have unlisted : Model.find? identifier = none :=
    List.find?_eq_none.mpr fun model listed => by simpa using unknown model listed
  simp only [start, unlisted]

/-- Opening that ends alike made the same calls. -/
theorem opening_injective {line : Line T} {config : Config} {calls calls' : List Call} {t t' : T}
    {result result' : Except OpenError Model}
    (same : opening (line.unlinked calls t) config result =
      opening (line.unlinked calls' t') config result') :
    calls = calls' ∧ t = t' ∧ result = result' := by
  have lines (same : line.unlinked calls t = line.unlinked calls' t') :
      calls = calls' ∧ t = t' := by
    obtain ⟨transport, journal⟩ := Line.mk.inj same
    have noted := List.append_cancel_left journal
    exact ⟨(List.map_inj_right fun _ _ h => (Entry.mk.inj h).2).mp noted, transport⟩
  cases result <;> cases result'
  · obtain ⟨error, line⟩ := Refusal.mk.inj (Except.error.inj same)
    exact ⟨(lines line).1, (lines line).2, congrArg _ error⟩
  · cases same
  · cases same
  · have session := Except.ok.inj same
    have line := lines (congrArg Session.line session)
    exact ⟨line.1, line.2, congrArg _ (congrArg Session.model session)⟩

variable [Transport T]

/-- Opening goes on from what the handshake yields. -/
def welcome (config : Config) : Except OpenError UInt8 × Line T →
    Except (Refusal T) (Session T)
  | (.error error, line) => .error ⟨error, line⟩
  | (.ok identifier, line) => (start line config identifier).mapError (⟨·, line⟩)

theorem welcome_of_opens {config : Config} {allowed : Nat} {t t' : T} {calls : List Call}
    {result : Except OpenError Model} (opens : Opens config allowed t calls t' result)
    {line : Line T} (here : line.transport = t) :
    welcome config (line.handshake config allowed) =
      opening (line.unlinked calls t') config result := by
  induction opens generalizing line with
  | spent t =>
    subst here
    rw [Line.unlinked_nil]
    rfl
  | fatal allowed attempt =>
    rw [Line.handshake_of_attempt attempt here]
    rfl
  | known allowed attempt known =>
    rw [Line.handshake_of_attempt attempt here, Verdict.outcome, welcome, start_of_mem known]
    rfl
  | unknown allowed attempt unknown =>
    rw [Line.handshake_of_attempt attempt here, Verdict.outcome, welcome, start_of_unknown unknown]
    rfl
  | again attempt later ih =>
    rw [Line.handshake_of_attempt attempt here, Verdict.outcome, ih rfl, Line.unlinked_unlinked]

/-- Opening follows the handshake. There is one way in which the attempts can go, given what the
transport answers, and opening makes the calls of these attempts and comes to their end. Each
attempt resets the transport and, unless that fails, sends one describe request, and nothing else
is written. The display is reported not to respond once all attempts are made. -/
theorem opening_follows_handshake (line : Line T) (config : Config) :
    ∃ calls transport result asked,
      (∀ calls' transport' result',
        Opens config (max 1 config.openAttempts.toNat) line.transport calls' transport' result' ↔
          calls' = calls ∧ transport' = transport ∧ result' = result) ∧
      connect line config = opening (line.unlinked calls transport) config result ∧
      Asked (max 1 config.openAttempts.toNat) asked calls result := by
  obtain ⟨calls, transport, result, opens⟩ :=
    exists_opens config (max 1 config.openAttempts.toNat) line.transport
  obtain ⟨asked, tally⟩ := opens.asked
  have connected := welcome_of_opens opens rfl
  refine ⟨calls, transport, result, asked, ?_, connected, tally⟩
  intro calls' transport' result'
  constructor
  · intro other
    exact opening_injective ((welcome_of_opens other rfl).symm.trans connected)
  · rintro ⟨rfl, rfl, rfl⟩
    exact opens

/-- The first reply is cut short, the second one comes in two pieces. -/
example :
    let line : Line ScriptedTransport :=
      ⟨{ replies := [[0xFE, 0xFE], [0xFE, 0xFE, 0x05]], chunk := 2 }, []⟩
    (connect line {}).toOption.map (fun s => (s.model, s.line.journal.map Entry.call)) =
      some (Model.brailleWave,
        [.reset {} true, .write [0xFF] (some 1), .await 1000 true,
          .read 3 100 (some [0xFE, 0xFE]), .read 1 100 (some []),
          .reset {} true, .write [0xFF] (some 1), .await 1000 true,
          .read 3 100 (some [0xFE, 0xFE]), .read 1 100 (some [0x05])]) := by
  decide +kernel

end Session

end BrailleDisplay
