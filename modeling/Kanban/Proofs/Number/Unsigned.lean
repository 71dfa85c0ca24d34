namespace Kanban.Number

open Float.Model (UnpackedFloat)

def unsigned (x : Float) : Float :=
  if x == 0.0 then 0.0 else x

def unsignedParts : UnpackedFloat → UnpackedFloat
  | .zero _ => .zero .positive
  | other => other

theorem unpack_zero : (0.0 : Float).toModel.unpack = .zero .positive := by
  rfl

theorem beq_iff {x y : Float} :
    (x == y) = true ↔ x.toModel.unpack.compare y.toModel.unpack = some .eq := by
  change (x.toModel.unpack.compare y.toModel.unpack == some .eq) = true ↔ _
  rw [beq_iff_eq]

theorem lt_iff {x y : Float} :
    x < y ↔ x.toModel.unpack.compare y.toModel.unpack = some .lt := by
  change decide (x.toModel < y.toModel) = true ↔ _
  rw [decide_eq_true_eq]
  change (x.toModel.unpack.compare y.toModel.unpack == some .lt) = true ↔ _
  rw [beq_iff_eq]

theorem beq_zero_iff {x : Float} :
    (x == 0.0) = true ↔ ∃ sign, x.toModel.unpack = .zero sign := by
  rw [beq_iff, unpack_zero]
  cases x.toModel.unpack with
  | zero sign => exact ⟨fun _ => ⟨sign, rfl⟩, fun _ => rfl⟩
  | notANumber => exact ⟨nofun, nofun⟩
  | infinity sign | finite sign => cases sign <;> exact ⟨nofun, nofun⟩

theorem unpack_unsigned (x : Float) :
    (unsigned x).toModel.unpack = unsignedParts x.toModel.unpack := by
  unfold unsigned
  split
  next zero =>
    obtain ⟨sign, parts⟩ := beq_zero_iff.mp zero
    rw [parts]
    exact unpack_zero
  next other =>
    cases parts : x.toModel.unpack with
    | zero sign => exact absurd (beq_zero_iff.mpr ⟨sign, parts⟩) other
    | notANumber | infinity | finite => rfl

@[simp] theorem unsigned_unsigned (x : Float) : unsigned (unsigned x) = unsigned x := by
  simp only [unsigned]
  split
  next => exact if_pos (beq_zero_iff.mpr ⟨_, unpack_zero⟩)
  next => rfl

theorem compare_unsignedParts (left right : UnpackedFloat) :
    (unsignedParts left).compare (unsignedParts right) = left.compare right := by
  cases left with
  | zero sign =>
      cases right with
      | zero | notANumber => rfl
      | infinity sign | finite sign => cases sign <;> rfl
  | notANumber => rfl
  | infinity sign | finite sign => cases sign <;> cases right <;> rfl

@[simp] theorem unsigned_lt_unsigned (x y : Float) : unsigned x < unsigned y ↔ x < y := by
  rw [lt_iff, lt_iff, unpack_unsigned, unpack_unsigned, compare_unsignedParts]

@[simp] theorem unsigned_beq_unsigned (x y : Float) : (unsigned x == unsigned y) = (x == y) := by
  rw [Bool.eq_iff_iff, beq_iff, beq_iff, unpack_unsigned, unpack_unsigned, compare_unsignedParts]

/-- Parts that differ in the sign of a zero only are those of the same unsigned number. -/
theorem unsigned_pack {left right : UnpackedFloat}
    (same : unsignedParts left = unsignedParts right) :
    unsigned ⟨.pack left⟩ = unsigned ⟨.pack right⟩ := by
  have zero (sign : UnpackedFloat.Sign) : unsigned ⟨.pack (.zero sign)⟩ = 0.0 := by
    cases sign <;> rfl
  cases left with
  | zero sign =>
      cases right with
      | zero other => rw [zero, zero]
      | notANumber | infinity | finite => cases same
  | notANumber | infinity | finite =>
      cases right <;> cases same
      rfl

theorem add_unsignedParts (left right : UnpackedFloat) :
    unsignedParts (.add .binary64 (unsignedParts left) (unsignedParts right)) =
      unsignedParts (.add .binary64 left right) := by
  cases left with
  | zero sign =>
      cases right with
      | zero other => cases sign <;> cases other <;> rfl
      | notANumber | infinity | finite => rfl
  | notANumber | infinity | finite => cases right <;> rfl

theorem div_unsignedParts {divisor : UnpackedFloat} (left : UnpackedFloat) :
    unsignedParts (.div .binary64 (unsignedParts left) divisor) =
      unsignedParts (.div .binary64 left divisor) := by
  cases left with
  | zero sign => cases divisor <;> rfl
  | notANumber | infinity | finite => rfl

theorem unsigned_add (x y : Float) : unsigned (unsigned x + unsigned y) = unsigned (x + y) := by
  apply unsigned_pack
  rw [unpack_unsigned, unpack_unsigned, add_unsignedParts]

theorem unsigned_add_right (x y : Float) : unsigned (unsigned x + y) = unsigned (x + y) := by
  rw [← unsigned_add, unsigned_unsigned, unsigned_add]

theorem unsigned_div (x y : Float) : unsigned (unsigned x / y) = unsigned (x / y) := by
  apply unsigned_pack
  rw [unpack_unsigned, div_unsignedParts]

end Kanban.Number
