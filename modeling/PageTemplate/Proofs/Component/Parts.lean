/-
What assignments do for the parts of a shape. The channels of all colours stay
from 0 to 255 (`Shape.coloured_assign`). Three kinds have a part without which
there is nothing to draw: the symbology of a barcode, the picture of an image,
the moment of a datetime. A shape has it once a property that writes to it has
been given a value, and no assignment takes it away (`Shape.isComplete_assign`).
-/
import PageTemplate.Proofs.Component.Waiting
import PageTemplate.Proofs.Drawing.Colour

namespace PageTemplate

/-- The part of a shape of some kind without which there is nothing to draw, by the property that stands
for it. -/
def ShapeKind.essential? : ShapeKind → Option Property
  | .datetime => some .time
  | .image => some .fileName
  | .barcode => some .barcodeType
  | .rectangle | .circle | .text => none

namespace Shape

/-- Whether all colours of a shape are in range. -/
def Coloured : Shape → Prop
  | .rectangle r => r.colour.InRange
  | .circle c => c.colour.InRange
  | .text t => t.line.colour.InRange
  | .datetime d => d.line.colour.InRange
  | .image _ => True
  | .barcode b => b.barColour.InRange ∧ b.background.InRange

/-- Whether a shape has its essential part. -/
def isComplete : Shape → Bool
  | .datetime d => d.moment.isSome
  | .image i => i.picture.isSome
  | .barcode b => b.symbology.isSome
  | .rectangle _ | .circle _ | .text _ => true

theorem coloured_empty (kind : ShapeKind) : (empty kind).Coloured := by
  cases kind with
  | barcode => exact ⟨Colour.inRange_default, Colour.inRange_default⟩
  | image => trivial
  | _ => exact Colour.inRange_default

theorem isComplete_of_essential {shape : Shape} (h : shape.kind.essential? = none) :
    shape.isComplete = true := by
  cases shape <;> first | rfl | cases h

theorem isComplete_empty (kind : ShapeKind) : (empty kind).isComplete = kind.essential?.isNone := by
  cases kind <;> rfl

end Shape

/-! ## What assignments keep and give -/

variable [Platform]

theorem Value.byte_of_asByte {v : Value} {i : Int} (h : v.asByte = .ok i) : 0 ≤ i ∧ i ≤ 255 := by
  unfold asByte at h
  split at h
  · split at h
    · cases h; assumption
    · exact absurd h refuseAs_ne_ok
  · exact absurd h refuseAs_ne_ok

section Assign

variable {files : FileTree} {settings : Settings} {p : Property} {v : Value} {s t : Session}

theorem RectangleShape.inRange_assign {r r' : RectangleShape} (hr : r.colour.InRange)
    (h : r.assign p v = .ok r') : r'.colour.InRange := by
  cases p with
  | topLeftX | topLeftY | width | height =>
    obtain ⟨i, -, rfl⟩ := Except.map_ok_iff.1 h
    exact hr
  | colour channel =>
    obtain ⟨i, hi, rfl⟩ := Except.map_ok_iff.1 h
    exact hr.withChannel channel (Value.byte_of_asByte hi)
  | _ => cases h

theorem CircleShape.inRange_assign {c c' : CircleShape} (hc : c.colour.InRange)
    (h : c.assign p v = .ok c') : c'.colour.InRange := by
  cases p with
  | centreX | centreY | radius =>
    obtain ⟨i, -, rfl⟩ := Except.map_ok_iff.1 h
    exact hc
  | colour channel =>
    obtain ⟨i, hi, rfl⟩ := Except.map_ok_iff.1 h
    exact hc.withChannel channel (Value.byte_of_asByte hi)
  | _ => cases h

/-- A barcode's colours stay in range, and it has a symbology once it is given one. -/
theorem BarcodeShape.assign_ok {b b' : BarcodeShape} (h : b.assign p v = .ok b') :
    (b.barColour.InRange ∧ b.background.InRange → b'.barColour.InRange ∧ b'.background.InRange) ∧
      b'.symbology.isSome = (b.symbology.isSome || some Property.barcodeType == some p.target) := by
  cases p with
  | content | topLeftX | topLeftY | width | height =>
    obtain ⟨i, -, rfl⟩ := Except.map_ok_iff.1 h
    exact ⟨id, (Bool.or_false _).symm⟩
  | barcodeType =>
    obtain ⟨symbology, -, rfl⟩ := Except.map_ok_iff.1 h
    exact ⟨id, (Bool.or_true _).symm⟩
  | barColour channel =>
    obtain ⟨i, hi, rfl⟩ := Except.map_ok_iff.1 h
    have hi := Value.byte_of_asByte hi
    exact ⟨fun hb => ⟨hb.1.withChannel channel hi, hb.2⟩, (Bool.or_false _).symm⟩
  | backgroundColour channel =>
    obtain ⟨i, hi, rfl⟩ := Except.map_ok_iff.1 h
    have hi := Value.byte_of_asByte hi
    exact ⟨fun hb => ⟨hb.1, hb.2.withChannel channel hi⟩, (Bool.or_false _).symm⟩
  | _ => cases h

theorem TextLine.inRange_assignPlain {line line' : TextLine} (hline : line.colour.InRange)
    (h : line.assignPlain p v = .ok line') : line'.colour.InRange := by
  cases p with
  | startX | startY | maxWidth | size | alignment =>
    obtain ⟨i, -, rfl⟩ := Except.map_ok_iff.1 h
    exact hline
  | colour channel =>
    obtain ⟨i, hi, rfl⟩ := Except.map_ok_iff.1 h
    exact hline.withChannel channel (Value.byte_of_asByte hi)
  | _ => cases h

theorem TextLine.inRange_assign {line line' : TextLine} (hline : line.colour.InRange)
    (h : (line.assign files settings p v).outcome s = (.ok line', t)) : line'.colour.InRange := by
  unfold assign at h
  split at h
  · obtain ⟨text, u, -, h⟩ := Act.outcome_bind_ok.1 h
    obtain ⟨font, u', -, h⟩ := Act.outcome_bind_ok.1 h
    cases h
    exact hline
  · exact inRange_assignPlain hline (Act.outcome_ofExcept_ok.1 h).1

/-- A line of text writes to no part that a shape of another kind lacks. -/
theorem TextLine.target_of_assign {line line' : TextLine}
    (h : (line.assign files settings p v).outcome s = (.ok line', t)) : p.target ≠ .time := by
  intro htarget
  cases p with
  | time => cases h
  | _ => cases htarget

theorem TextShape.inRange_assign {d d' : TextShape} (hd : d.line.colour.InRange)
    (h : (d.assign files settings p v).outcome s = (.ok d', t)) : d'.line.colour.InRange := by
  unfold assign at h
  split at h
  · obtain ⟨text, -, rfl⟩ := Except.map_ok_iff.1 (Act.outcome_ofExcept_ok.1 h).1
    exact hd
  · obtain ⟨line, u, hline, h⟩ := Act.outcome_bind_ok.1 h
    cases h
    exact TextLine.inRange_assign hd hline

/-- A datetime's colour stays in range, and it has a moment once it is given one. -/
theorem MomentShape.assign_ok {d d' : MomentShape}
    (h : (d.assign files settings p v).outcome s = (.ok d', t)) :
    (d.line.colour.InRange → d'.line.colour.InRange) ∧
      d'.moment.isSome = (d.moment.isSome || some Property.time == some p.target) := by
  unfold assign at h
  split at h
  · obtain ⟨moment, -, rfl⟩ := Except.map_ok_iff.1 (Act.outcome_ofExcept_ok.1 h).1
    exact ⟨id, (Bool.or_true _).symm⟩
  · obtain ⟨layout, -, rfl⟩ := Except.map_ok_iff.1 (Act.outcome_ofExcept_ok.1 h).1
    exact ⟨id, (Bool.or_false _).symm⟩
  · obtain ⟨line, u, hline, h⟩ := Act.outcome_bind_ok.1 h
    cases h
    have htarget : (some Property.time == some p.target) = false := by
      simpa using (TextLine.target_of_assign hline).symm
    exact ⟨fun hd => TextLine.inRange_assign hd hline, by rw [htarget, Bool.or_false]⟩

/-- An image has a picture once it is given one, from either source. -/
theorem ImageShape.isSome_assign {i i' : ImageShape}
    (h : (i.assign files settings p v).outcome s = (.ok i', t)) :
    i'.picture.isSome = (i.picture.isSome || some Property.fileName == some p.target) := by
  unfold assign at h
  split at h
  · obtain ⟨picture, u, -, h⟩ := Act.outcome_bind_ok.1 h
    cases h
    exact (Bool.or_true _).symm
  · obtain ⟨path, u, -, h⟩ := Act.outcome_bind_ok.1 h
    obtain ⟨picture, u', -, h⟩ := Act.outcome_bind_ok.1 h
    cases h
    exact (Bool.or_true _).symm
  · replace h := (Act.outcome_ofExcept_ok.1 h).1
    cases p with
    | topLeftX | topLeftY | width | height =>
      obtain ⟨n, -, rfl⟩ := Except.map_ok_iff.1 h
      exact (Bool.or_false _).symm
    | _ => cases h

namespace Shape

variable {shape shape' : Shape}

/-- Every assignment sees to it that a channel is from 0 to 255. -/
theorem coloured_assign (hshape : shape.Coloured)
    (h : (shape.assign files settings p v).outcome s = (.ok shape', t)) : shape'.Coloured := by
  cases shape with
  | rectangle r =>
    obtain ⟨r', hr, rfl⟩ := Except.map_ok_iff.1 (Act.outcome_ofExcept_ok.1 h).1
    exact RectangleShape.inRange_assign hshape hr
  | circle c =>
    obtain ⟨c', hc, rfl⟩ := Except.map_ok_iff.1 (Act.outcome_ofExcept_ok.1 h).1
    exact CircleShape.inRange_assign hshape hc
  | barcode b =>
    obtain ⟨b', hb, rfl⟩ := Except.map_ok_iff.1 (Act.outcome_ofExcept_ok.1 h).1
    exact (BarcodeShape.assign_ok hb).1 hshape
  | text d =>
    obtain ⟨d', u, hd, h⟩ := Act.outcome_bind_ok.1 h
    cases h
    exact TextShape.inRange_assign hshape hd
  | datetime d =>
    obtain ⟨d', u, hd, h⟩ := Act.outcome_bind_ok.1 h
    cases h
    exact (MomentShape.assign_ok hd).1 hshape
  | image i =>
    obtain ⟨i', u, hi, h⟩ := Act.outcome_bind_ok.1 h
    cases h
    trivial

/-- A shape has its essential part once a property that writes to it has been given a value. -/
theorem isComplete_assign (h : (shape.assign files settings p v).outcome s = (.ok shape', t)) :
    shape'.isComplete = (shape.isComplete || shape.kind.essential? == some p.target) := by
  cases shape with
  | rectangle | circle =>
    obtain ⟨_, -, rfl⟩ := Except.map_ok_iff.1 (Act.outcome_ofExcept_ok.1 h).1
    rfl
  | barcode b =>
    obtain ⟨b', hb, rfl⟩ := Except.map_ok_iff.1 (Act.outcome_ofExcept_ok.1 h).1
    exact (BarcodeShape.assign_ok hb).2
  | text d =>
    obtain ⟨d', u, hd, h⟩ := Act.outcome_bind_ok.1 h
    cases h
    rfl
  | datetime d =>
    obtain ⟨d', u, hd, h⟩ := Act.outcome_bind_ok.1 h
    cases h
    exact (MomentShape.assign_ok hd).2
  | image i =>
    obtain ⟨i', u, hi, h⟩ := Act.outcome_bind_ok.1 h
    cases h
    exact ImageShape.isSome_assign hi

end Shape

end Assign

end PageTemplate
