import BrailleDisplay.Proofs.Link
import Mathlib.Algebra.Ring.Nat
import Mathlib.Data.List.DropRight
import Mathlib.Data.List.Induction

/-!
# The link and its history

A link is used through three calls: time passes, a state is entered, and an event is taken, which
enters a state if the table has an entry for it. The calls alone decide what the link holds. Its
state is the one entered last, its elapsed time is what has passed since then, and its retries are
the entries since the state was last another one. Neither number ever wraps.
-/
namespace BrailleDisplay

/-- A call on a link. -/
inductive LinkCall where
  | tick (elapsed : UInt32)
  | enter (state : LinkState)
  | advance (event : LinkEvent)
  deriving Repr, DecidableEq

/-- What a call does to a link. -/
inductive LinkMark where
  /-- Time passes. -/
  | passed (elapsed : UInt32)
  /-- A state is entered from another one or once more. -/
  | entered (source target : LinkState)
  deriving Repr, DecidableEq

namespace LinkMark

/-- The milliseconds that pass. -/
def duration : LinkMark → Nat
  | .passed elapsed => elapsed.toNat
  | .entered _ _ => 0

def target? : LinkMark → Option LinkState
  | .passed _ => none
  | .entered _ target => some target

def isEntry : LinkMark → Bool
  | .passed _ => false
  | .entered _ _ => true

/-- The state is not the same afterwards. -/
def isChange : LinkMark → Bool
  | .passed _ => false
  | .entered source target => source != target

end LinkMark

/-- The marks after the last one of a kind, or all of them if there is none. -/
def marksSince (kind : LinkMark → Bool) (marks : List LinkMark) : List LinkMark :=
  marks.rtakeWhile fun mark => !kind mark

/-- The state that was entered last. -/
def lastEntered (marks : List LinkMark) : LinkState :=
  (marks.filterMap LinkMark.target?).getLast?.getD .off

/-- What a call does in a state, if it does anything. -/
def LinkCall.mark? (state : LinkState) : LinkCall → Option LinkMark
  | .tick elapsed => some (.passed elapsed)
  | .enter target => some (.entered state target)
  | .advance event => (state.next? event).map (.entered state)

/-- What calls on a new link do. -/
def linkMarks (calls : List LinkCall) : List LinkMark :=
  calls.foldl (fun marks call => marks ++ (call.mark? (lastEntered marks)).toList) []

namespace Link

/-- Makes a call, and tells which state an event led to. -/
def call (link : Link) : LinkCall → Option LinkState × Link
  | .tick elapsed => (none, link.tick elapsed)
  | .enter state => (none, link.enter state)
  | .advance event => link.advance event

/-- Makes calls one after the other. -/
def replay (link : Link) (calls : List LinkCall) : Link :=
  calls.foldl (fun link call => (link.call call).2) link

theorem replay_concat (link : Link) (calls : List LinkCall) (last : LinkCall) :
    link.replay (calls ++ [last]) = ((link.replay calls).call last).2 := by
  simp only [replay, List.foldl_append, List.foldl_cons, List.foldl_nil]

end Link

theorem marksSince_concat (kind : LinkMark → Bool) (marks : List LinkMark) (mark : LinkMark) :
    marksSince kind (marks ++ [mark]) =
      if kind mark then [] else marksSince kind marks ++ [mark] := by
  rw [marksSince, List.rtakeWhile_concat]
  cases kind mark <;> rfl

theorem lastEntered_concat (marks : List LinkMark) (mark : LinkMark) :
    lastEntered (marks ++ [mark]) = mark.target?.getD (lastEntered marks) := by
  rw [lastEntered, List.filterMap_append, List.getLast?_append]
  cases target : mark.target? <;> simp [lastEntered, target]

theorem linkMarks_concat (calls : List LinkCall) (last : LinkCall) :
    linkMarks (calls ++ [last]) =
      linkMarks calls ++ (last.mark? (lastEntered (linkMarks calls))).toList := by
  simp only [linkMarks, List.foldl_append, List.foldl_cons, List.foldl_nil]

namespace Link

/-- The link is what the marks made of a new one. -/
structure Follows (marks : List LinkMark) (link : Link) : Prop where
  state : link.state = lastEntered marks
  elapsed : link.elapsed.toNat =
    min ((marksSince LinkMark.isEntry marks).map LinkMark.duration).sum (UInt32.size - 1)
  retries : link.retries.toNat =
    min ((marksSince LinkMark.isChange marks).countP LinkMark.isEntry) (UInt8.size - 1)

namespace Follows

variable {marks : List LinkMark} {link : Link}

theorem new : Follows [] {} := ⟨rfl, rfl, rfl⟩

/-- Time that passes adds to the elapsed time and is no entry. -/
theorem tick (h : Follows marks link) (elapsed : UInt32) :
    Follows (marks ++ [.passed elapsed]) (link.tick elapsed) where
  state := by rw [lastEntered_concat]; exact h.state
  elapsed := by
    have before := h.elapsed
    simp only [Link.tick, toNat_addCapped, marksSince_concat, LinkMark.isEntry, List.map_append,
      List.map_cons, List.map_nil, List.sum_append, List.sum_singleton, LinkMark.duration,
      Bool.false_eq_true, if_false]
    omega
  retries := by
    simpa [marksSince_concat, LinkMark.isChange, LinkMark.isEntry] using h.retries

/-- An entry starts the time anew, and the count unless it leads back to the same state. -/
theorem enter (h : Follows marks link) (target : LinkState) :
    Follows (marks ++ [.entered link.state target]) (link.enter target) where
  state := by rw [lastEntered_concat]; rfl
  elapsed := by
    rw [marksSince_concat]
    rfl
  retries := by
    have before := h.retries
    rw [marksSince_concat]
    by_cases same : target = link.state
    · have again : LinkMark.isChange (.entered link.state target) = false := by
        simp [LinkMark.isChange, same]
      rw [retries_enter_of_eq same, toNat_countUp, before, again, if_neg Bool.false_ne_true,
        List.countP_append]
      simp only [List.countP_singleton, LinkMark.isEntry, if_true]
      omega
    · have change : LinkMark.isChange (.entered link.state target) = true := by
        simp [LinkMark.isChange, Ne.symm same]
      rw [retries_enter_of_ne same, change, if_pos rfl]
      rfl

theorem call (h : Follows marks link) (call : LinkCall) :
    Follows (marks ++ (call.mark? (lastEntered marks)).toList) (link.call call).2 := by
  rw [← h.state]
  cases call with
  | tick elapsed => exact h.tick elapsed
  | enter target => exact h.enter target
  | advance event =>
    simp only [LinkCall.mark?, Link.call, advance]
    cases link.state.next? event with
    | some target => exact h.enter target
    | none => rw [Option.map_none, Option.toList_none, List.append_nil]; exact h

/-- Whatever calls are made on a new link, it is what they made of it. -/
theorem replay (calls : List LinkCall) : Follows (linkMarks calls) (Link.replay {} calls) := by
  induction calls using List.reverseRecOn with
  | nil => exact new
  | append_singleton calls last ih =>
    rw [replay_concat, linkMarks_concat]
    exact ih.call last

end Follows

/-- A link sums up the calls made on it. The state is the one that was entered last; the elapsed
time is the time since then, and the retries are the entries since the state last changed, each held
at the end of its range. An event without an entry in the table leads nowhere and leaves everything
as it is. -/
theorem link_sums_up_calls (calls : List LinkCall) :
    let link := Link.replay {} calls
    let marks := linkMarks calls
    link.state = lastEntered marks ∧
    link.elapsed.toNat =
      min ((marksSince LinkMark.isEntry marks).map LinkMark.duration).sum (UInt32.size - 1) ∧
    link.retries.toNat =
      min ((marksSince LinkMark.isChange marks).countP LinkMark.isEntry) (UInt8.size - 1) ∧
    ∀ event, link.apply event = (link.advance event).2 ∧
      (link.state.next? event = none → link.advance event = (none, link)) ∧
      ∀ target, link.state.next? event = some target →
        link.advance event = (some target, link.enter target) := by
  intro link marks
  have follows : Follows marks link := .replay calls
  refine ⟨follows.state, follows.elapsed, follows.retries, fun event => ⟨?_, ?_, ?_⟩⟩
  · exact apply_eq_advance link event
  · intro unlisted
    rw [advance, unlisted]
  · intro target listed
    rw [advance, listed]

/-- An acknowledgement that nobody waits for does not stop the time, which stays at the largest
duration; entering a state once more is a retry. -/
example : Link.replay {} [.tick 5, .advance .acknowledged, .tick 0xFFFFFFFE] =
      { elapsed := 0xFFFFFFFF } ∧
    Link.replay {} [.enter .resetting, .tick 5, .enter .resetting, .advance .probed, .tick 7] =
      { state := .resetting, elapsed := 7, retries := 2 } := by decide

end Link

end BrailleDisplay
