import Ucf.Library.Json

/-! The leaves of a JSON value: the scalars at any depth of its arrays and objects. -/

namespace Ucf.Json

mutual

/-- The scalars of a value, in the order in which they are written. -/
def leaves : Json → List Json
  | .arr items => leavesOfItems items
  | .obj fields => leavesOfFields fields
  | .null => [.null]
  | .bool b => [.bool b]
  | .int n => [.int n]
  | .float t => [.float t]
  | .str s => [.str s]

/-- The scalars of the items of an array. -/
def leavesOfItems : List Json → List Json
  | [] => []
  | item :: items => leaves item ++ leavesOfItems items

/-- The scalars of the field values of an object. -/
def leavesOfFields : List (String × Json) → List Json
  | [] => []
  | (_, value) :: fields => leaves value ++ leavesOfFields fields

end

theorem leaves_arr (items : List Json) : (arr items).leaves = items.flatMap leaves := by
  rw [leaves]
  induction items with
  | nil => rfl
  | cons item items ih => rw [leavesOfItems, ih, List.flatMap_cons]

theorem leaves_obj (fields : List (String × Json)) :
    (obj fields).leaves = fields.flatMap fun field => field.2.leaves := by
  rw [leaves]
  induction fields with
  | nil => rfl
  | cons field fields ih => rw [leavesOfFields, ih, List.flatMap_cons]

@[simp] theorem leaves_str (text : String) : (str text).leaves = [str text] := by rw [leaves]

end Ucf.Json
