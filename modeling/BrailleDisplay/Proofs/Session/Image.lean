import BrailleDisplay.Proofs.Session.Delivery

/-!
# Images are faithful

What an image shows follows from the calls made on it, and what the image of a session shows follows
from the cells that the host got accepted. A write of another number of cells than the area has
changes neither.
-/
namespace BrailleDisplay.Session

variable {T : Type} [Transport T]

/-- Cells are accepted if their number is right, and refused without any effect if it is not. -/
theorem Fits.write_refused {s : Session T} (h : s.Fits) {area : Area} {cells : List Cell}
    (misfit : cells.length ≠ s.model.cellsIn area) :
    s.perform (.write area cells) = (.refused ⟨s.model.cellsIn area, cells.length⟩, s) ∧
      s.events (.write area cells) = [] := by
  have refused : s.image.write area cells = .error ⟨s.model.cellsIn area, cells.length⟩ := by
    rw [Image.write, h.sized, if_pos misfit]
  exact ⟨perform_refused refused, events_refused refused⟩

theorem Fits.write_done {s : Session T} (h : s.Fits) {area : Area} {cells : List Cell}
    (fits : cells.length = s.model.cellsIn area) :
    (s.perform (.write area cells)).1 = .done := by
  cases written : s.image.write area cells with
  | error mismatch =>
    rw [Image.write, h.sized, if_neg (not_not.mpr fits)] at written
    split_ifs at written
  | ok image =>
    cases area with
    | main => rw [perform_write (write_main written)]
    | status => rw [perform_write (write_status written)]

/-- The image of a display is faithful to its history. A model has one exactly if its areas are
within their capacity, of which the main one is checked first. After any calls each area holds the
cells last accepted for it, once in the dot order of the host and once in that of the device, and
neither row has another length than the area. A row of the right length is accepted, and any other
is refused and changes nothing. The image is dirty exactly if something new was asked for since it
was last marked clean. In a session, too, each area holds what the host last got accepted, in both
orders, and a row of another length makes no call and changes nothing. -/
theorem images_are_faithful :
    (∀ model : Model,
      ((∃ image, Image.blank model = .ok image) ↔ model.columns ≤ 80 ∧ model.statusCells ≤ 4) ∧
      (80 < model.columns → Image.blank model = .error ⟨80, model.columns.toNat⟩) ∧
      (model.columns ≤ 80 → 4 < model.statusCells →
        Image.blank model = .error ⟨4, model.statusCells.toNat⟩) ∧
      ∀ image, Image.blank model = .ok image → ∀ calls,
        let now := image.replay calls
        (∀ area,
          (now.region area).cells.length = model.cellsIn area ∧
          (now.region area).native.length = model.cellsIn area ∧
          (now.region area).cells =
            (acceptedIn model area calls).getLast?.getD (blankRow (model.cellsIn area)) ∧
          (now.region area).native =
            ((acceptedIn model area calls).getLast?.map (·.map Cell.toDevice)).getD
              (blankRow (model.cellsIn area)) ∧
          ∀ cells,
            (cells.length = model.cellsIn area → (now.call (.write area cells)).1 = .ok ()) ∧
            (cells.length ≠ model.cellsIn area →
              now.call (.write area cells) =
                (.error ⟨model.cellsIn area, cells.length⟩, now))) ∧
        (now.dirty = true ↔ Dirtied model calls)) ∧
    ∀ (line : Line T) (config : Config) (opened : Session T), connect line config = .ok opened →
      ∀ (operations : List (Operation T)) (area : Area),
        let s := (opened.run operations).2
        (s.image.region area).cells = lastShown s.model area (opened.history operations) ∧
        (s.image.region area).native =
          (lastShown s.model area (opened.history operations)).map Cell.toDevice ∧
        ∀ cells,
          (cells.length = s.model.cellsIn area → (s.perform (.write area cells)).1 = .done) ∧
          (cells.length ≠ s.model.cellsIn area →
            s.perform (.write area cells) = (.refused ⟨s.model.cellsIn area, cells.length⟩, s) ∧
              s.events (.write area cells) = []) := by
  refine ⟨fun model => ⟨?_, ?_, ?_, ?_⟩, ?_⟩
  · rw [Image.blank_eq_ite]
    split_ifs <;> simp [*]
  · intro wide
    rw [Image.blank_eq_ite, if_neg (UInt8.not_le.mpr wide)]
  · intro narrow wide
    rw [Image.blank_eq_ite, if_pos narrow, if_neg (UInt8.not_le.mpr wide)]
  · intro image built calls now
    have follows : now.Follows model calls := .replay built calls
    refine ⟨fun area => ⟨follows.length_eq area, ?_, ?_, ?_, fun cells => ⟨?_, ?_⟩⟩, follows.dirty⟩
    · rw [(follows.inStep area).length_native, follows.length_eq]
    · rw [follows.region, cells_regionAfter]
    · rw [follows.region, native_regionAfter]
    · intro fits
      obtain ⟨next, made, _⟩ := follows.accept fits
      rw [made]
    · exact fun misfit => (follows.refuse misfit).1
  · intro line config opened h operations area s
    have faithful := (run_path opened operations []).keeps Faithful.step (faithful_of_connect h)
    refine ⟨faithful.cells area, ?_,
      fun cells => ⟨faithful.fits.write_done, faithful.fits.write_refused⟩⟩
    rw [faithful.fits.inStep area, faithful.cells]
    rfl

end BrailleDisplay.Session
