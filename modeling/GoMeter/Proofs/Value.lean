import GoMeter.Data.Value

/-!
# Values compared and looked up

* `Value.same_iff`: two values can be compared, part by part.
* `Value.get?_object`: what stands under a key of a mapping with text keys.
-/

namespace GoMeter.Value

mutual

/-- Whether two values are the same. -/
def same : Value → Value → Bool
  | .null, .null => true
  | .bool a, .bool b => a == b
  | .int m, .int n => m == n
  | .float x, .float y => x == y
  | .text s, .text t => s == t
  | .stamp s, .stamp t => s == t
  | .list as, .list bs => sameItems as bs
  | .map as, .map bs => sameEntries as bs
  | _, _ => false

/-- Whether two lists have the same items. -/
def sameItems : List Value → List Value → Bool
  | [], [] => true
  | a :: as, b :: bs => same a b && sameItems as bs
  | _, _ => false

/-- Whether two mappings have the same entries. -/
def sameEntries : List (Value × Value) → List (Value × Value) → Bool
  | [], [] => true
  | (k, v) :: as, (l, w) :: bs => same k l && same v w && sameEntries as bs
  | _, _ => false

end

mutual

theorem same_iff : ∀ a b : Value, same a b = true ↔ a = b
  | .null, b => by cases b <;> simp [same]
  | .bool _, b => by cases b <;> simp [same]
  | .int _, b => by cases b <;> simp [same]
  | .float _, b => by cases b <;> simp [same]
  | .text _, b => by cases b <;> simp [same]
  | .stamp _, b => by cases b <;> simp [same]
  | .list as, b => by
    cases b with
    | list bs => simp [same, sameItems_iff as bs]
    | _ => simp [same]
  | .map as, b => by
    cases b with
    | map bs => simp [same, sameEntries_iff as bs]
    | _ => simp [same]

theorem sameItems_iff : ∀ as bs : List Value, sameItems as bs = true ↔ as = bs
  | [], bs => by cases bs <;> simp [sameItems]
  | a :: as, bs => by
    cases bs with
    | nil => simp [sameItems]
    | cons b bs => simp [sameItems, same_iff a b, sameItems_iff as bs]

theorem sameEntries_iff : ∀ as bs : List (Value × Value), sameEntries as bs = true ↔ as = bs
  | [], bs => by cases bs <;> simp [sameEntries]
  | (k, v) :: as, bs => by
    cases bs with
    | nil => simp [sameEntries]
    | cons b bs =>
      obtain ⟨l, w⟩ := b
      simp [sameEntries, same_iff k l, same_iff v w, sameEntries_iff as bs]

end

instance : DecidableEq Value := fun a b => decidable_of_iff _ (same_iff a b)

theorem get?_object (fields : List (String × Value)) (key : String) :
    (object fields).get? key = fields.lookup key := by
  induction fields with
  | nil => rfl
  | cons field rest ih =>
    obtain ⟨name, v⟩ := field
    by_cases hname : name = key
    · subst hname
      simp [object, get?]
    · have hother : (key == name) = false := by simpa using Ne.symm hname
      rw [List.lookup_cons, hother, ← ih]
      simp [object, get?, hname]

end GoMeter.Value
