import Formulas.Proofs.Number.Integer
import Formulas.Proofs.Value.Equality
import Formulas.Value.Json

/-! Values turned into JSON and back, and JSON turned into values and back. Main statement:
`json_round_trip`. -/
namespace Formulas

namespace Json

/-- A JSON value lies within another one, at any depth, or is that value. -/
inductive Within (part : Json) : Json → Prop
  | self : Within part part
  | item {items : List Json} {j : Json} (mem : j ∈ items) (within : Within part j) :
      Within part (.array items)
  | field {fields : Dictionary Json} {name : String} {j : Json}
      (found : fields.get? name = some j) (within : Within part j) : Within part (.object fields)

/-- What holds of an array or object whenever it holds of all items or fields holds of every JSON
value. -/
@[elab_as_elim]
theorem induction {motive : Json → Prop} (null : motive .null) (bool : ∀ b, motive (.bool b))
    (integer : ∀ n, motive (.integer n)) (float : ∀ x finite, motive (.float x finite))
    (string : ∀ s, motive (.string s))
    (array : ∀ items, (∀ j ∈ items, motive j) → motive (.array items))
    (object : ∀ fields : Dictionary Json,
      (∀ name j, fields.get? name = some j → motive j) → motive (.object fields))
    (j : Json) : motive j := by
  refine @Json.rec motive (fun items => ∀ j ∈ items, motive j)
    (fun fields => ∀ name j, fields.get? name = some j → motive j)
    null bool integer float string array object (List.forall_mem_nil _) ?cons ?fields j
  case cons => exact fun j items hj hitems => List.forall_mem_cons.mpr ⟨hj, hitems⟩
  case fields =>
    intro keys value hvalue name j found
    obtain ⟨i, -, rfl⟩ := Dictionary.exists_place found
    exact hvalue i

theorem ofDouble_of_isFinite {x : Double} (h : x.isFinite) : ofDouble x = .float x h := dif_pos h

theorem ofDouble_of_not_isFinite {x : Double} (h : ¬ x.isFinite) : ofDouble x = .null := dif_neg h

theorem ofDouble_ne_integer (x : Double) (n : Int) : ofDouble x ≠ .integer n := by
  by_cases h : x.isFinite
  · rw [ofDouble_of_isFinite h]
    exact nofun
  · rw [ofDouble_of_not_isFinite h]
    exact nofun

end Json

namespace Value

/-- Whether JSON has a form for a value apart from what lies within it. -/
def isExpressible : Value → Bool
  | .undefined => false
  | .number (.double x) => x.isFinite
  | _ => true

mutual

/-- The value with `null` in place of all that JSON cannot express. -/
def nulled : Value → Value
  | .list items => .list (nulledAll items)
  | .record ⟨keys, value⟩ => .record ⟨keys, fun i => nulled (value i)⟩
  | v => if v.isExpressible then v else .null

def nulledAll : List Value → List Value
  | [] => []
  | v :: vs => nulled v :: nulledAll vs

end

theorem nulledAll_eq_map (items : List Value) : nulledAll items = items.map nulled := by
  induction items with
  | nil => rfl
  | cons v items ih => rw [nulledAll, ih, List.map_cons]

theorem toJsonAll_eq_map (items : List Value) : toJsonAll items = items.map toJson := by
  induction items with
  | nil => rfl
  | cons v items ih => rw [toJsonAll, ih, List.map_cons]

theorem ofJsonAll_eq_map (items : List Json) : ofJsonAll items = items.map ofJson := by
  induction items with
  | nil => rfl
  | cons j items ih => rw [ofJsonAll, ih, List.map_cons]

theorem nulled_double (x : Double) :
    (double x).nulled = if x.isFinite then double x else .null := rfl

theorem nulled_list (items : List Value) : (list items).nulled = .list (items.map nulled) := by
  rw [nulled, nulledAll_eq_map]

theorem get?_nulled (segment : String) (v : Value) :
    v.nulled.get? segment = (v.get? segment).map nulled := by
  cases v with
  | undefined | null | bool b | text s => rfl
  | number x =>
    cases x with
    | int n => rfl
    | double x =>
      change (double x).nulled.get? segment = none
      rw [nulled_double]
      split <;> rfl
  | list items =>
    rw [nulled_list, get?, get?]
    cases index? segment with
    | none => rfl
    | some i => exact List.getElem?_map
  | record fields =>
    obtain ⟨keys, value⟩ := fields
    exact (Option.map_map nulled value (Keys.place? segment keys.names)).symm

theorem ofJson_toJson (v : Value) : ofJson v.toJson = v.nulled := by
  induction v using induction with
  | undefined | null | bool b | text s => rfl
  | number x =>
    cases x with
    | int n => exact congrArg Value.number (Number.ofInt_toInt n)
    | double x =>
      change ofJson (.ofDouble x) = (double x).nulled
      rw [nulled_double]
      by_cases h : x.isFinite
      · rw [Json.ofDouble_of_isFinite h, if_pos h]
        rfl
      · rw [Json.ofDouble_of_not_isFinite h, if_neg h]
        rfl
  | list items ih =>
    rw [toJson, ofJson, toJsonAll_eq_map, ofJsonAll_eq_map, nulled_list, List.map_map]
    exact congrArg Value.list (List.map_congr_left ih)
  | record fields ih =>
    obtain ⟨keys, value⟩ := fields
    have hvalue : (fun i => ofJson (value i).toJson) = fun i => (value i).nulled :=
      funext fun i => ih _ _ (Dictionary.get?_get ⟨keys, value⟩ i)
    rw [toJson, ofJson, nulled, hvalue]

/-- A number out of range comes back as a double, or as `null` if it is too large for one. -/
theorem toJson_ofInt_eq_iff (n : Int) :
    (number (.ofInt n)).toJson = .integer n ↔ -2 ^ 63 ≤ n ∧ n < 2 ^ 63 := by
  rw [← Number.isSome_int64?_iff, Number.ofInt, Number.ofInt?]
  cases h : Number.int64? n with
  | none =>
    refine iff_of_false (fun hinteger => ?_) Bool.false_ne_true
    exact Json.ofDouble_ne_integer (.ofInt n) n hinteger
  | some r =>
    obtain rfl := Number.int64?_eq_some_iff.mp h
    exact iff_of_true rfl rfl

theorem toJson_ofJson_array (items : List Json) :
    (ofJson (.array items)).toJson = .array (items.map fun j => (ofJson j).toJson) := by
  rw [ofJson, toJson, ofJsonAll_eq_map, toJsonAll_eq_map, List.map_map]
  rfl

theorem toJson_ofJson_iff (j : Json) : (ofJson j).toJson = j ↔
    ∀ n, Json.Within (.integer n) j → -2 ^ 63 ≤ n ∧ n < 2 ^ 63 := by
  induction j using Json.induction with
  | null => exact iff_of_true rfl fun n h => nomatch h
  | bool b => exact iff_of_true rfl fun n h => nomatch h
  | string s => exact iff_of_true rfl fun n h => nomatch h
  | float x finite =>
    exact iff_of_true (Json.ofDouble_of_isFinite finite) fun n h => nomatch h
  | integer n =>
    refine (toJson_ofInt_eq_iff n).trans ⟨fun h m hm => ?_, fun h => h n .self⟩
    cases hm
    exact h
  | array items ih =>
    have hitems : (ofJson (.array items)).toJson = .array items ↔
        ∀ j ∈ items, (ofJson j).toJson = j := by
      rw [toJson_ofJson_array, Json.array.injEq]
      conv_lhs => rhs; rw [← List.map_id items]
      exact List.map_inj_left
    rw [hitems]
    constructor
    · intro h n hn
      cases hn with
      | item mem within => exact (ih _ mem).mp (h _ mem) n within
    · exact fun h j mem => (ih j mem).mpr fun n within => h n (.item mem within)
  | object fields ih =>
    obtain ⟨keys, value⟩ := fields
    have hfields : (ofJson (.object ⟨keys, value⟩)).toJson = .object ⟨keys, value⟩ ↔
        ∀ i, (ofJson (value i)).toJson = value i := by
      rw [ofJson, toJson, Json.object.injEq, Dictionary.mk.injEq, and_iff_right rfl, heq_iff_eq]
      exact funext_iff
    have found (i : Fin keys.names.length) := Dictionary.get?_get ⟨keys, value⟩ i
    rw [hfields]
    constructor
    · intro h n hn
      cases hn with
      | field found' within =>
        obtain ⟨i, -, rfl⟩ := Dictionary.exists_place found'
        exact (ih _ _ found').mp (h i) n within
    · exact fun h i => (ih _ _ (found i)).mpr fun n within => h n (.field (found i) within)

/-- A value comes back from JSON with `null` in place of what JSON cannot express. Everything else
is as it was, and every name and every place leads to what it led to before. A JSON value comes back
from the values just if all its integers are in the range of 64 bits. -/
theorem json_round_trip (v : Value) (j : Json) :
    ofJson v.toJson = v.nulled ∧
    (∀ segment, (ofJson v.toJson).get? segment = (v.get? segment).map nulled) ∧
    ((ofJson j).toJson = j ↔
      ∀ n, Json.Within (.integer n) j → -2 ^ 63 ≤ n ∧ n < 2 ^ 63) := by
  rw [ofJson_toJson]
  exact ⟨rfl, fun segment => get?_nulled segment v, toJson_ofJson_iff j⟩

end Value

end Formulas
