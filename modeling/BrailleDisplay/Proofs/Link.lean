import BrailleDisplay.Link

/-!
# Events on the link

What each event does to a link that listens to it. The failures and the announcement are
listened to in every state.
-/
namespace BrailleDisplay.Link

attribute [local simp] LinkState.next?

/-- Where the answer of a call does not matter, the event is applied. -/
theorem apply_eq_advance (link : Link) (event : LinkEvent) :
    link.apply event = (link.advance event).2 := by
  unfold apply advance
  cases link.state.next? event <;> rfl

@[simp] theorem state_enter (link : Link) (state : LinkState) : (link.enter state).state = state :=
  rfl

@[simp] theorem state_tick (link : Link) (elapsed : UInt32) :
    (link.tick elapsed).state = link.state := rfl

@[simp] theorem retries_tick (link : Link) (elapsed : UInt32) :
    (link.tick elapsed).retries = link.retries := rfl

@[simp] theorem elapsed_enter (link : Link) (state : LinkState) : (link.enter state).elapsed = 0 :=
  rfl

theorem retries_enter_of_ne {link : Link} {state : LinkState} (h : state ≠ link.state) :
    (link.enter state).retries = 0 := if_neg h

theorem retries_enter_of_eq {link : Link} {state : LinkState} (h : state = link.state) :
    (link.enter state).retries = countUp link.retries := if_pos h

@[simp] theorem apply_faulted (link : Link) : link.apply .faulted = link.enter .off := by
  unfold apply; cases link.state <;> rfl

@[simp] theorem apply_exhausted (link : Link) : link.apply .exhausted = link.enter .off := by
  unfold apply; cases link.state <;> rfl

@[simp] theorem apply_announced (link : Link) :
    link.apply .announced = link.enter .identifying := by
  unfold apply; cases link.state <;> rfl

theorem apply_disconnected {link : Link} (h : link.state ≠ .off) :
    link.apply .disconnected = link.enter .off := by
  unfold apply; cases hs : link.state <;> simp_all

theorem apply_frameSent {link : Link} (h : link.state = .ready ∨ link.state = .writing) :
    link.apply .frameSent = link.enter .writing := by
  rcases h with h | h <;> simp [apply, h]

theorem apply_probed {link : Link}
    (h : link.state = .resetting ∨ link.state = .identifying ∨ link.state = .writing) :
    link.apply .probed = link.enter .resetting := by
  rcases h with h | h | h <;> simp [apply, h]

theorem apply_acknowledged {link : Link} (h : link.state = .writing) :
    link.apply .acknowledged = link.enter .ready := by
  simp [apply, h]

theorem apply_identified {link : Link} (h : link.state = .identifying) :
    link.apply .identified = link.enter .ready := by
  simp [apply, h]

/-- No frame makes a link ready. -/
theorem state_apply_frameSent_ne (link : Link) : (link.apply .frameSent).state ≠ .ready := by
  unfold apply
  cases h : link.state <;> simp [h]

theorem state_apply_probed_ne {link : Link} (h : link.state ≠ .ready) :
    (link.apply .probed).state ≠ .ready := by
  unfold apply
  cases hs : link.state <;> simp_all

theorem state_apply_frameSent_off (link : Link) :
    (link.apply .frameSent).state = .off ↔ link.state = .off := by
  unfold apply
  cases h : link.state <;> simp [h]

theorem state_apply_probed_off (link : Link) :
    (link.apply .probed).state = .off ↔ link.state = .off := by
  unfold apply
  cases h : link.state <;> simp [h]

end BrailleDisplay.Link
