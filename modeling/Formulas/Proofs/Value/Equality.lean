import Formulas.Proofs.Dictionary
import Formulas.Proofs.Number.Comparison
import Formulas.Value.Basic
import Mathlib.Data.Option.Basic

/-! Equality of values of any depth. Main statement: `strictEq_structured`. -/
namespace Formulas.Value

/-- A value lies within another one, at any depth, or is that value. -/
inductive Within (part : Value) : Value → Prop
  | self : Within part part
  | item {items : List Value} {v : Value} (mem : v ∈ items) (within : Within part v) :
      Within part (.list items)
  | field {fields : Dictionary Value} {name : String} {v : Value}
      (found : fields.get? name = some v) (within : Within part v) : Within part (.record fields)

/-- What holds of a list or record whenever it holds of all items or fields holds of every value. -/
@[elab_as_elim]
theorem induction {motive : Value → Prop} (undefined : motive .undefined) (null : motive .null)
    (bool : ∀ b, motive (.bool b)) (number : ∀ x, motive (.number x))
    (text : ∀ s, motive (.text s))
    (list : ∀ items, (∀ v ∈ items, motive v) → motive (.list items))
    (record : ∀ fields : Dictionary Value,
      (∀ name v, fields.get? name = some v → motive v) → motive (.record fields))
    (a : Value) : motive a := by
  refine @Value.rec motive (fun items => ∀ v ∈ items, motive v)
    (fun fields => ∀ name v, fields.get? name = some v → motive v)
    undefined null bool number text list record (List.forall_mem_nil _) ?cons ?fields a
  case cons => exact fun v items hv hitems => List.forall_mem_cons.mpr ⟨hv, hitems⟩
  case fields =>
    intro keys value hvalue name v found
    obtain ⟨i, -, rfl⟩ := Dictionary.exists_place found
    exact hvalue i

/-! ### Records as finite maps -/

variable {eq eq' : Number → Number → Bool}

/-- The sizes are compared, and the fields of one record are looked up in the other. -/
theorem agree_record_iff_size {d e : Dictionary Value} : (record d).agree eq (.record e) ↔
    d.size = e.size ∧
      ∀ name v, d.get? name = some v → ∃ w, e.get? name = some w ∧ v.agree eq w := by
  obtain ⟨keys, value⟩ := d
  rw [agree, Bool.and_eq_true, decide_eq_true_eq, List.all_eq_true]
  refine and_congr_right fun _ => ?_
  simp only [Option.any_eq_true]
  constructor
  · intro h name v hv
    obtain ⟨i, rfl, rfl⟩ := Dictionary.exists_place hv
    exact h i (List.mem_finRange i)
  · intro h i _
    exact h _ _ (Dictionary.get?_get ⟨keys, value⟩ i)

/-- Records agree if they have the same keys and under each key values that agree. -/
theorem agree_record_iff {d e : Dictionary Value} : (record d).agree eq (.record e) ↔
    d.keys = e.keys ∧ ∀ name v w, d.get? name = some v → e.get? name = some w → v.agree eq w := by
  rw [agree_record_iff_size]
  constructor
  · rintro ⟨hsize, hfields⟩
    -- Only one side is looked through, but keys are distinct and the sizes agree.
    have hkeys : d.keys = e.keys := by
      refine Dictionary.keys_eq_of_size hsize fun name hname => ?_
      obtain ⟨v, hv⟩ := Option.isSome_iff_exists.mp ((d.mem_names_iff name).mp hname)
      obtain ⟨w, hw, -⟩ := hfields name v hv
      exact (e.mem_names_iff name).mpr (Option.isSome_iff_exists.mpr ⟨w, hw⟩)
    refine ⟨hkeys, fun name v w hv hw => ?_⟩
    obtain ⟨w', hw', hagree⟩ := hfields name v hv
    obtain rfl := Option.some.inj (hw.symm.trans hw')
    exact hagree
  · rintro ⟨hkeys, hfields⟩
    refine ⟨by rw [Dictionary.size, Dictionary.size, hkeys], fun name v hv => ?_⟩
    have hsome := (Dictionary.isSome_get?_of_keys hkeys name).mp (by rw [hv]; rfl)
    obtain ⟨w, hw⟩ := Option.isSome_iff_exists.mp hsome
    exact ⟨w, hw, hfields name v w hv hw⟩

/-- Records agree if and only if they agree under every name. -/
theorem agree_record_iff_forall {d e : Dictionary Value} : (record d).agree eq (.record e) ↔
    ∀ name, Option.Rel (fun v w => v.agree eq w) (d.get? name) (e.get? name) := by
  rw [agree_record_iff]
  constructor
  · rintro ⟨hkeys, hfields⟩ name
    have hsome := Dictionary.isSome_get?_of_keys hkeys name
    cases hv : d.get? name with
    | none =>
      cases hw : e.get? name with
      | none => exact .none
      | some w => simp [hv, hw] at hsome
    | some v =>
      cases hw : e.get? name with
      | none => simp [hv, hw] at hsome
      | some w => exact .some (hfields name v w hv hw)
  · intro h
    refine ⟨Dictionary.keys_eq_of_isSome fun name => ?_, fun name v w hv hw => ?_⟩
    · have hname := h name
      generalize d.get? name = v, e.get? name = w at hname ⊢
      cases hname <;> simp
    · have hname := h name
      rw [hv, hw] at hname
      cases hname with
      | some hagree => exact hagree

/-! ### Laws of equality -/

theorem agreeItems_comm {items : List Value}
    (ih : ∀ v ∈ items, ∀ w, v.agree eq w = w.agree eq v) (items' : List Value) :
    agreeItems eq items items' = agreeItems eq items' items := by
  induction items generalizing items' with
  | nil => cases items' <;> rfl
  | cons v items ihItems =>
    obtain ⟨hv, hitems⟩ := List.forall_mem_cons.mp ih
    cases items' with
    | nil => rfl
    | cons w items' => rw [agreeItems, agreeItems, hv w, ihItems hitems items']

theorem agree_comm (comm : ∀ x y, eq x y = eq y x) (a b : Value) :
    a.agree eq b = b.agree eq a := by
  induction a using induction generalizing b with
  | undefined | null => cases b <;> rfl
  | bool p => cases b <;> simp [agree, Eq.comm]
  | number x => cases b <;> simp [agree, comm]
  | text s => cases b <;> simp [agree, Eq.comm]
  | list items ih =>
    cases b with
    | list items' => rw [agree, agree, agreeItems_comm ih]
    | _ => rfl
  | record d ih =>
    cases b with
    | record e =>
      rw [Bool.eq_iff_iff, agree_record_iff, agree_record_iff]
      constructor
      · rintro ⟨hkeys, hfields⟩
        exact ⟨hkeys.symm, fun name w v hw hv => ih name v hv w ▸ hfields name v w hv hw⟩
      · rintro ⟨hkeys, hfields⟩
        exact ⟨hkeys.symm, fun name v w hv hw => ih name v hv w ▸ hfields name w v hw hv⟩
    | _ => rfl

theorem agreeItems_mono {items : List Value}
    (ih : ∀ v ∈ items, ∀ w, v.agree eq w → v.agree eq' w) {items' : List Value}
    (h : agreeItems eq items items') : agreeItems eq' items items' := by
  induction items generalizing items' with
  | nil => cases items' <;> exact h
  | cons v items ihItems =>
    obtain ⟨hv, hitems⟩ := List.forall_mem_cons.mp ih
    cases items' with
    | nil => exact h
    | cons w items' =>
      rw [agreeItems, Bool.and_eq_true] at h ⊢
      exact ⟨hv w h.1, ihItems hitems h.2⟩

theorem agree_mono (mono : ∀ x y, eq x y → eq' x y) {a b : Value} (h : a.agree eq b) :
    a.agree eq' b := by
  induction a using induction generalizing b with
  | undefined | null | bool p | text s => cases b <;> exact h
  | number x =>
    cases b with
    | number y => exact mono x y h
    | _ => exact h
  | list items ih =>
    cases b with
    | list items' => exact agreeItems_mono (fun v hv w => ih v hv) h
    | _ => exact h
  | record d ih =>
    cases b with
    | record e =>
      rw [agree_record_iff] at h ⊢
      exact ⟨h.1, fun name v w hv hw => ih name v hv (h.2 name v w hv hw)⟩
    | _ => exact h

theorem agreeItems_self_iff {items : List Value} :
    agreeItems eq items items ↔ ∀ v ∈ items, v.agree eq v := by
  induction items with
  | nil => simp [agreeItems]
  | cons v items ih => rw [agreeItems, Bool.and_eq_true, List.forall_mem_cons, ih]

/-- Only a number that differs from itself, at any depth, keeps a value from equalling itself. -/
theorem agree_self_iff {a : Value} :
    a.agree eq a ↔ ∀ x, Within (.number x) a → eq x x := by
  induction a using induction with
  | undefined | null => exact iff_of_true rfl fun x h => nomatch h
  | bool p => exact iff_of_true (decide_eq_true rfl) fun x h => nomatch h
  | text s => exact iff_of_true (decide_eq_true rfl) fun x h => nomatch h
  | number x =>
    rw [agree]
    constructor
    · intro h y hy
      cases hy
      exact h
    · exact fun h => h x .self
  | list items ih =>
    rw [agree, agreeItems_self_iff]
    constructor
    · intro h x hx
      cases hx with
      | item mem within => exact (ih _ mem).mp (h _ mem) x within
    · exact fun h v mem => (ih v mem).mpr fun x within => h x (.item mem within)
  | record d ih =>
    rw [agree_record_iff, and_iff_right rfl]
    constructor
    · intro h x hx
      cases hx with
      | field found within => exact (ih _ _ found).mp (h _ _ _ found found) x within
    · intro h name v w hv hw
      obtain rfl := Option.some.inj (hv.symm.trans hw)
      exact (ih name v hv).mpr fun x within => h x (.field hv within)

theorem strictEq_number (x y : Number) : (number x).strictEq (.number y) = x.eq y := by
  rw [strictEq, agree]

theorem strictEq_text (s t : String) : (text s).strictEq (.text t) = decide (s = t) := by
  rw [strictEq, agree]

/-- Equality of the language is symmetric, a value equals itself if and only if it is no number that
differs from itself and holds none, and what is the same is equal. Records are equal as finite maps:
in each way of looking, under every name or from one side with the sizes, and whatever the order in
which their entries were given. -/
theorem strictEq_structured (a b : Value) :
    a.strictEq b = b.strictEq a ∧
    (a.strictEq a ↔ ¬ Within (.number .nan) a) ∧
    (a.same b → a.strictEq b) ∧
    (∀ d e : Dictionary Value,
      ((record d).strictEq (.record e) ↔
        ∀ name, Option.Rel (fun v w => v.strictEq w) (d.get? name) (e.get? name)) ∧
      ((record d).strictEq (.record e) ↔ d.size = e.size ∧
        ∀ name v, d.get? name = some v → ∃ w, e.get? name = some w ∧ v.strictEq w)) ∧
    (∀ es es' : List (String × Value), es.Perm es' → (es.map Prod.fst).Nodup →
      (record (.ofList es)).strictEq a = (record (.ofList es')).strictEq a) := by
  have hself : a.strictEq a ↔ ¬ Within (.number .nan) a := by
    rw [strictEq, agree_self_iff]
    constructor
    · exact fun h hnan => Number.eq_self_iff.mp (h .nan hnan) rfl
    · intro h x hx
      refine Number.eq_self_iff.mpr fun hnan => h ?_
      rwa [← hnan]
  refine ⟨agree_comm Number.eq_comm a b, hself, agree_mono fun x y => Number.eq_of_same, ?_, ?_⟩
  · exact fun d e => ⟨agree_record_iff_forall, agree_record_iff_size⟩
  · intro es es' hperm hkeys
    rw [Dictionary.ofList_eq_of_perm hperm hkeys]

end Formulas.Value
