import GoMeter.Proofs.Json.Scalar
import Mathlib.Data.List.Nodup

/-!
# JSON values are read back

* `Json.Plain`: the values that JSON text keeps, made of nothing, truth values, integers within the
  limit on digits, texts, lists, and mappings with distinct text keys.
* `Json.Layout.SetsApart`: a layout adds nothing but blanks; both layouts do.
* `Json.Written`: a text is read as a value wherever it stands.
* `Json.items_write`, `Json.members_write`: the items of a list and the entries of a mapping are read
  back one after the other.
* `Json.Plain.written`: a plain value is read back from the way it is written, at any level of any such
  layout.
* `Json.Plain.read_write`: so is a whole text.
-/

namespace GoMeter.Json

/-! ## Blanks -/

/-- A character that may stand between two parts of a text. -/
def IsBlank (c : Char) : Prop := c = ' ' ∨ c = '\t' ∨ c = '\n' ∨ c = '\r'

instance : DecidablePred IsBlank := fun c =>
  inferInstanceAs (Decidable (c = ' ' ∨ c = '\t' ∨ c = '\n' ∨ c = '\r'))

theorem skipBlanks_append {blanks : List Char} (h : ∀ c ∈ blanks, IsBlank c) (cs : List Char) :
    skipBlanks (blanks ++ cs) = skipBlanks cs := by
  refine List.dropWhile_append_of_pos fun c hc => ?_
  simpa [IsBlank, or_assoc] using h c hc

theorem skipBlanks_cons {c : Char} (h : ¬ IsBlank c) (cs : List Char) :
    skipBlanks (c :: cs) = c :: cs := by
  refine List.dropWhile_cons_of_neg ?_
  simpa [IsBlank, or_assoc] using h

theorem EndsNumber.of_blanks {blanks cs : List Char} (h : ∀ c ∈ blanks, IsBlank c)
    (hcs : EndsNumber cs) : EndsNumber (blanks ++ cs) := by
  cases blanks with
  | nil => exact hcs
  | cons b blanks =>
    intro c hc
    obtain rfl : b = c := by simpa using hc
    rcases h b List.mem_cons_self with rfl | rfl | rfl | rfl <;> decide

/-! ## Layouts -/

/-- A layout sets items apart with blanks only. -/
structure Layout.SetsApart (layout : Layout) : Prop where
  colon : ∃ blanks, layout.colon = ':' :: blanks ∧ ∀ c ∈ blanks, IsBlank c
  line : ∀ level, ∀ c ∈ layout.line level, IsBlank c

theorem Layout.setsApart_oneLine : Layout.oneLine.SetsApart :=
  ⟨⟨[], rfl, by simp⟩, by simp [Layout.oneLine]⟩

theorem Layout.setsApart_twoBlanks : Layout.twoBlanks.SetsApart := by
  refine ⟨⟨[' '], rfl, by simp [IsBlank]⟩, fun level c hc => ?_⟩
  rcases List.mem_cons.mp hc with rfl | hc
  · exact .inr (.inr (.inl rfl))
  · exact .inl (List.eq_of_mem_replicate hc)

/-! ## Values that are kept -/

/-- The digits of an integer are within the limit. -/
def WithinLimit (n : Int) : Prop := (Decimal.digits n.natAbs).length ≤ digitLimit

theorem withinLimit_of_lt {n : Int} {k : Nat} (hpos : 0 < k) (hk : k ≤ digitLimit)
    (h : n.natAbs < 10 ^ k) : WithinLimit n :=
  (Decimal.length_digits_le hpos h).trans hk

/-- The entries of a mapping with text keys. -/
def textKeys (fields : List (String × Value)) : List (Value × Value) :=
  fields.map fun (k, v) => (.text k, v)

@[simp] theorem textKeys_nil : textKeys [] = [] := rfl

@[simp] theorem textKeys_cons (e : String × Value) (fields : List (String × Value)) :
    textKeys (e :: fields) = (.text e.1, e.2) :: textKeys fields := rfl

/-- The values that JSON text keeps. -/
inductive Plain : Value → Prop
  | null : Plain .null
  | bool (b : Bool) : Plain (.bool b)
  | int {n : Int} (h : WithinLimit n) : Plain (.int n)
  | text (s : String) : Plain (.text s)
  | list {vs : List Value} (h : ∀ v ∈ vs, Plain v) : Plain (.list vs)
  | object {fields : List (String × Value)} (hkeys : (fields.map Prod.fst).Nodup)
      (h : ∀ e ∈ fields, Plain e.2) : Plain (.object fields)

theorem Plain.list_map {α : Type} {f : α → Value} {as : List α} (h : ∀ a ∈ as, Plain (f a)) :
    Plain (.list (as.map f)) := by
  refine .list fun v hv => ?_
  obtain ⟨a, ha, rfl⟩ := List.mem_map.mp hv
  exact h a ha

/-! ## Texts that are read as a value -/

/-- A text is read as a value wherever it stands: it starts neither with a blank nor like the end of a
list, and is read up to its end, whatever follows that does not go on like a number. Two steps for each
character are enough: an item takes one step of its list and one of its own. -/
structure Written (v : Value) (cs : List Char) : Prop where
  starts : ∃ c t, cs = c :: t ∧ ¬ IsBlank c ∧ c ≠ ']'
  reads : ∀ fuel rest, 2 * cs.length ≤ fuel + 1 → EndsNumber rest →
    value (fuel + 1) (cs ++ rest) = .ok (v, rest)

namespace Written

variable {v : Value} {cs : List Char}

theorem length_pos (h : Written v cs) : 0 < cs.length := by
  obtain ⟨c, t, rfl, -⟩ := h.starts
  simp

theorem value_append (h : Written v cs) {fuel : Nat} {rest : List Char} (hfuel : 2 * cs.length ≤ fuel)
    (hrest : EndsNumber rest) : value fuel (cs ++ rest) = .ok (v, rest) := by
  have hpos := h.length_pos
  obtain ⟨fuel, rfl⟩ : ∃ n, fuel = n + 1 := ⟨fuel - 1, by omega⟩
  exact h.reads fuel rest hfuel hrest

theorem skipBlanks_append_eq (h : Written v cs) (rest : List Char) :
    skipBlanks (cs ++ rest) = cs ++ rest := by
  obtain ⟨c, t, rfl, hblank, -⟩ := h.starts
  exact skipBlanks_cons hblank (t ++ rest)

end Written

/-! ### Scalars -/

/-- A character that starts neither a list nor a mapping, and is no part of one. -/
def StartsScalar (c : Char) : Prop := ¬ IsBlank c ∧ c ≠ '[' ∧ c ≠ ']' ∧ c ≠ '{'

instance : DecidablePred StartsScalar := fun c =>
  inferInstanceAs (Decidable (¬ IsBlank c ∧ c ≠ '[' ∧ c ≠ ']' ∧ c ≠ '{'))

/-- A text that starts like a scalar and is read as one. -/
theorem written_of_scalar {v : Value} {c : Char} {t : List Char} (hc : StartsScalar c)
    (h : ∀ rest, EndsNumber rest → scalar (c :: t ++ rest) = .ok (v, rest)) : Written v (c :: t) := by
  obtain ⟨hblank, hlist, hend, hmap⟩ := hc
  refine ⟨⟨c, t, rfl, hblank, hend⟩, ?_⟩
  intro fuel rest _ hrest
  rw [← h rest hrest, value.eq_def]
  split <;> simp_all

theorem startsScalar_of_isDigit {c : Char} (hc : c.isDigit = true) : StartsScalar c := by
  refine ⟨?_, (ne_of_isDigit hc rfl).symm, (ne_of_isDigit hc rfl).symm, (ne_of_isDigit hc rfl).symm⟩
  rintro (rfl | rfl | rfl | rfl) <;> simp at hc

theorem written_int {n : Int} (hn : WithinLimit n) : Written (.int n) (Decimal.chars n) := by
  have hread : ∀ rest, EndsNumber rest → scalar (Decimal.chars n ++ rest) = .ok (.int n, rest) :=
    fun rest => scalar_chars hn
  obtain ⟨c, t, hchars, hc⟩ := Decimal.chars_eq_cons n
  rw [hchars] at hread ⊢
  refine written_of_scalar ?_ hread
  rcases hc with rfl | hc
  · decide
  · exact startsScalar_of_isDigit hc

theorem written_text (s : String) : Written (.text s) (quote s.toList) := by
  refine written_of_scalar (by decide) fun rest _ => ?_
  simp [scalar, string?_escaped]

/-! ### Lists and mappings -/

theorem quote_append (s rest : List Char) :
    quote s ++ rest = '"' :: (s.flatMap escape ++ '"' :: rest) := by
  simp [quote]

theorem skipBlanks_quote (s rest : List Char) : skipBlanks (quote s ++ rest) = quote s ++ rest := by
  rw [quote_append]
  exact skipBlanks_cons (by decide) _

theorem write_object_cons (layout : Layout) (level : Nat) (e : String × Value)
    (fields : List (String × Value)) :
    write layout level (.object (e :: fields)) =
      '{' :: layout.line (level + 1) ++ quote e.1.toList ++ layout.colon ++
        write layout (level + 1) e.2 ++ writeEntries layout (level + 1) (textKeys fields) ++
          layout.line level ++ ['}'] := rfl

/-- A list that is not empty is read item by item. -/
theorem value_list {fuel : Nat} {v : Value} {cs head rest : List Char} (hcs : Written v cs)
    (hhead : ∀ c ∈ head, IsBlank c) :
    value (fuel + 1) ('[' :: (head ++ (cs ++ rest))) = items fuel [] (cs ++ rest) := by
  obtain ⟨c, t, rfl, hblank, hend⟩ := hcs.starts
  rw [value, skipBlanks_append hhead, List.cons_append, skipBlanks_cons hblank]
  split
  · simp_all
  · rfl

/-- A mapping that is not empty is read entry by entry. -/
theorem value_map {fuel : Nat} {s head rest : List Char} (hhead : ∀ c ∈ head, IsBlank c) :
    value (fuel + 1) ('{' :: (head ++ (quote s ++ rest))) = members fuel [] (quote s ++ rest) := by
  rw [value, skipBlanks_append hhead, quote_append, skipBlanks_cons (by decide)]
  rfl

/-- A new key goes to the end of a mapping. -/
theorem addEntry_textKeys {k : String} {v : Value} {done : List (String × Value)}
    (h : k ∉ done.map Prod.fst) : addEntry k v (textKeys done) = textKeys (done ++ [(k, v)]) := by
  induction done with
  | nil => rfl
  | cons e done ih =>
    obtain ⟨hne, hrest⟩ : k ≠ e.1 ∧ k ∉ done.map Prod.fst := by simpa using h
    rw [textKeys_cons, addEntry, if_neg hne.symm, ih hrest]
    rfl

section

variable {layout : Layout} (hlayout : layout.SetsApart) {level below : Nat} {rest : List Char}

include hlayout

theorem skipBlanks_line {c : Char} (hc : ¬ IsBlank c) :
    skipBlanks (layout.line below ++ c :: rest) = c :: rest := by
  rw [skipBlanks_append (hlayout.line below), skipBlanks_cons hc]

theorem endsNumber_line {c : Char} (hc : ¬ ExtendsNumber c) :
    EndsNumber (layout.line below ++ c :: rest) :=
  .of_blanks (hlayout.line below) (endsNumber_cons hc rest)

/-- An item is followed by a comma, or by blanks and the end of the list. -/
theorem endsNumber_writeItems (vs : List Value) :
    EndsNumber (writeItems layout level vs ++ (layout.line below ++ ']' :: rest)) := by
  cases vs with
  | nil => exact endsNumber_line hlayout (by decide)
  | cons v vs => exact endsNumber_cons (by decide) _

/-- The items of a list are read back one after the other. -/
theorem items_write {fuel : Nat} {v : Value} {vs done : List Value}
    (hvs : ∀ w ∈ v :: vs, Written w (write layout level w))
    (hfuel : 2 * (write layout level v ++ writeItems layout level vs).length < fuel) :
    items fuel done (write layout level v ++ (writeItems layout level vs ++
      (layout.line below ++ ']' :: rest))) = .ok (.list (done.reverse ++ v :: vs), rest) := by
  induction vs generalizing fuel v done with
  | nil =>
    obtain ⟨fuel, rfl⟩ : ∃ n, fuel = n + 1 := ⟨fuel - 1, by omega⟩
    rw [List.length_append] at hfuel
    rw [items, (hvs v (by simp)).value_append (by omega) (endsNumber_writeItems hlayout [])]
    simp [writeItems, skipBlanks_line hlayout (show ¬ IsBlank ']' by decide)]
  | cons w ws ih =>
    -- The item, a comma and the blanks after it are read; the rest are items of a shorter list.
    obtain ⟨fuel, rfl⟩ : ∃ n, fuel = n + 1 := ⟨fuel - 1, by omega⟩
    have hv := hvs v (by simp)
    have hpos := hv.length_pos
    have hw := hvs w (by simp)
    have hnext : items fuel (v :: done) (write layout level w ++ (writeItems layout level ws ++
        (layout.line below ++ ']' :: rest))) = .ok (.list (done.reverse ++ v :: w :: ws), rest) := by
      rw [ih (fun u hu => hvs u (List.mem_cons_of_mem _ hu)) (by simp [writeItems] at hfuel ⊢; omega)]
      simp
    rw [List.length_append] at hfuel
    rw [items, hv.value_append (by omega) (endsNumber_writeItems hlayout (w :: ws))]
    simp [writeItems, skipBlanks_cons (show ¬ IsBlank ',' by decide),
      skipBlanks_append (hlayout.line level), hw.skipBlanks_append_eq, hnext]

/-- An entry is followed by a comma, or by blanks and the end of the mapping. -/
theorem endsNumber_writeEntries (entries : List (Value × Value)) :
    EndsNumber (writeEntries layout level entries ++ (layout.line below ++ '}' :: rest)) := by
  cases entries with
  | nil => exact endsNumber_line hlayout (by decide)
  | cons v vs => exact endsNumber_cons (by decide) _

/-- One entry of a mapping is read back and added to those before it. -/
theorem members_entry {fuel : Nat} {k : String} {v : Value} {cs : List Char}
    {done : List (String × Value)} (hv : Written v cs) (hkey : k ∉ done.map Prod.fst)
    (hfuel : 2 * cs.length ≤ fuel) (hrest : EndsNumber rest) :
    members (fuel + 1) (textKeys done) (quote k.toList ++ (layout.colon ++ (cs ++ rest))) =
      match skipBlanks rest with
      | ',' :: rest => members fuel (textKeys (done ++ [(k, v)])) (skipBlanks rest)
      | '}' :: rest => .ok (.object (done ++ [(k, v)]), rest)
      | _ => .error .malformed := by
  obtain ⟨blanks, hcolon, hblanks⟩ := hlayout.colon
  rw [quote_append, members, string?_escaped, hcolon]
  simp only [List.cons_append, skipBlanks_cons (show ¬ IsBlank ':' by decide),
    skipBlanks_append hblanks, hv.skipBlanks_append_eq, hv.value_append hfuel hrest,
    String.ofList_toList, addEntry_textKeys hkey]
  rfl

/-- The entries of a mapping are read back one after the other. A key that is met again would take the
place of the entry before, so the keys have to be distinct. -/
theorem members_write {fuel : Nat} {k : String} {v : Value} {fields done : List (String × Value)}
    (hvs : ∀ e ∈ (k, v) :: fields, Written e.2 (write layout level e.2))
    (hkeys : ((done ++ (k, v) :: fields).map Prod.fst).Nodup)
    (hfuel : 2 * (write layout level v ++ writeEntries layout level (textKeys fields)).length < fuel) :
    members fuel (textKeys done) (quote k.toList ++ (layout.colon ++ (write layout level v ++
      (writeEntries layout level (textKeys fields) ++ (layout.line below ++ '}' :: rest))))) =
      .ok (.object (done ++ (k, v) :: fields), rest) := by
  induction fields generalizing fuel k v done with
  | nil =>
    obtain ⟨fuel, rfl⟩ : ∃ n, fuel = n + 1 := ⟨fuel - 1, by omega⟩
    have hv : Written v (write layout level v) := hvs (k, v) (by simp)
    rw [List.length_append] at hfuel
    rw [members_entry hlayout hv (by grind) (by omega) (endsNumber_writeEntries hlayout _)]
    simp [writeEntries, skipBlanks_line hlayout (show ¬ IsBlank '}' by decide)]
  | cons e fields ih =>
    obtain ⟨fuel, rfl⟩ : ∃ n, fuel = n + 1 := ⟨fuel - 1, by omega⟩
    have hv : Written v (write layout level v) := hvs (k, v) (by simp)
    have hpos := hv.length_pos
    have hnext : members fuel (textKeys (done ++ [(k, v)])) (quote e.1.toList ++ (layout.colon ++
        (write layout level e.2 ++ (writeEntries layout level (textKeys fields) ++
          (layout.line below ++ '}' :: rest))))) =
            .ok (.object (done ++ [(k, v)] ++ e :: fields), rest) :=
      ih (fun u hu => hvs u (List.mem_cons_of_mem _ hu)) (by simpa using hkeys)
        (by simp [writeEntries] at hfuel ⊢; omega)
    rw [List.length_append] at hfuel
    rw [members_entry hlayout hv (by grind) (by omega) (endsNumber_writeEntries hlayout _)]
    simpa [writeEntries, key, skipBlanks_cons (show ¬ IsBlank ',' by decide),
      skipBlanks_append (hlayout.line level), skipBlanks_quote] using hnext

/-! ### All values -/

/-- A list of values that are read back is read back. -/
theorem written_list {vs : List Value} (hvs : ∀ v ∈ vs, Written v (write layout (level + 1) v)) :
    Written (.list vs) (write layout level (.list vs)) where
  starts := by cases vs <;> exact ⟨'[', _, rfl, by decide, by decide⟩
  reads fuel rest hfuel hrest := by
    cases vs with
    | nil => rfl
    | cons v vs =>
      have hitems : items fuel [] (write layout (level + 1) v ++ (writeItems layout (level + 1) vs ++
          (layout.line level ++ ']' :: rest))) = .ok (.list (v :: vs), rest) :=
        items_write hlayout hvs (by simp [write] at hfuel ⊢; omega)
      rw [← hitems, ← value_list (hvs v List.mem_cons_self) (hlayout.line (level + 1))]
      simp [write]

/-- A mapping to values that are read back is read back, if its keys are distinct. -/
theorem written_object {fields : List (String × Value)} (hkeys : (fields.map Prod.fst).Nodup)
    (hvs : ∀ e ∈ fields, Written e.2 (write layout (level + 1) e.2)) :
    Written (.object fields) (write layout level (.object fields)) where
  starts := by cases fields <;> exact ⟨'{', _, rfl, by decide, by decide⟩
  reads fuel rest hfuel hrest := by
    cases fields with
    | nil => rfl
    | cons e fields =>
      have hmembers : members fuel (textKeys []) (quote e.1.toList ++ (layout.colon ++
          (write layout (level + 1) e.2 ++ (writeEntries layout (level + 1) (textKeys fields) ++
            (layout.line level ++ '}' :: rest))))) = .ok (.object (e :: fields), rest) :=
        members_write hlayout hvs hkeys (by simp [write_object_cons] at hfuel ⊢; omega)
      rw [← hmembers, textKeys_nil, ← value_map (hlayout.line (level + 1))]
      simp [write_object_cons]

/-- A plain value is read back from the way it is written. -/
theorem Plain.written {v : Value} (hv : Plain v) (level : Nat) : Written v (write layout level v) := by
  induction hv generalizing level with
  | null => exact written_of_scalar (by decide) fun rest _ => rfl
  | bool b => cases b <;> exact written_of_scalar (by decide) fun rest _ => rfl
  | int h => exact written_int h
  | text s => exact written_text s
  | list _ ih => exact written_list hlayout fun v hv => ih v hv (level + 1)
  | object hkeys _ ih => exact written_object hlayout hkeys fun e he => ih e he (level + 1)

/-- A plain value is read back from its whole text. -/
theorem Plain.read_write {v : Value} (hv : Plain v) :
    read (String.ofList (write layout 0 v)) = .ok v := by
  have hwritten := hv.written hlayout 0
  have hskip : skipBlanks (write layout 0 v) = write layout 0 v := by
    simpa using hwritten.skipBlanks_append_eq []
  have hvalue : value (2 * (write layout 0 v).length + 2) (write layout 0 v) = .ok (v, []) := by
    simpa using hwritten.value_append (Nat.le_add_right _ 2) endsNumber_nil
  have hend : skipBlanks [] = [] := rfl
  simp [read, hskip, hvalue, hend]

end

end GoMeter.Json
