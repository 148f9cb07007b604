import Upkeep.Text.Basic

/-!
# Dictionaries

A dictionary maps names to texts; a later entry replaces an earlier one under the same name.  Its
view is `find?`; every operation has one lemma that says what it does to the view.
-/

namespace Upkeep

structure Dictionary where
  /-- the entries, the newest first -/
  entries : List (Text × Text)
  distinct : (entries.map Prod.fst).Nodup
deriving DecidableEq, Repr

namespace Dictionary

def empty : Dictionary := ⟨[], by simp⟩

instance : Inhabited Dictionary := ⟨empty⟩

def find? (d : Dictionary) (k : Text) : Option Text := d.entries.lookup k

/-- a new entry, in place of the old one under the same name -/
def insert (d : Dictionary) (k v : Text) : Dictionary where
  entries := (k, v) :: d.entries.filter fun e => e.1 ≠ k
  distinct := by
    simp only [List.map_cons, List.nodup_cons]
    constructor
    · simp
    · exact d.distinct.sublist (List.filter_sublist.map _)

def size (d : Dictionary) : Nat := d.entries.length

def isEmpty (d : Dictionary) : Bool := d.entries.isEmpty

def contains (d : Dictionary) (k : Text) : Bool := (d.find? k).isSome

def insertAll (d : Dictionary) (ps : List (Text × Text)) : Dictionary :=
  ps.foldl (fun d p => d.insert p.1 p.2) d

/-- the dictionary of the pairs, where the last pair of a name counts -/
def ofList (ps : List (Text × Text)) : Dictionary := empty.insertAll ps

/-! ## the view -/

@[simp] theorem find?_empty (q : Text) : empty.find? q = none := rfl

/-- removing the pairs of one name hides no other name -/
theorem lookup_filter_ne {κ α : Type} [BEq κ] [LawfulBEq κ] [DecidableEq κ] (es : List (κ × α))
    {k q : κ} (h : q ≠ k) : (es.filter fun e => e.1 ≠ k).lookup q = es.lookup q := by
  induction es with
  | nil => rfl
  | cons e es ih =>
    by_cases hk : e.1 = k
    · have hq : (q == e.1) = false := by simpa [hk] using h
      rw [List.filter_cons_of_neg (by simpa using hk), ih, List.lookup_cons, hq]
    · rw [List.filter_cons_of_pos (by simpa using hk), List.lookup_cons, List.lookup_cons, ih]

theorem find?_insert (d : Dictionary) (k v q : Text) :
    (d.insert k v).find? q = if q = k then some v else d.find? q := by
  by_cases h : q = k
  · subst h; simp [insert, find?]
  · have hq : (q == k) = false := by simpa using h
    rw [if_neg h, find?, insert, List.lookup_cons, hq]
    exact lookup_filter_ne d.entries h

@[simp] theorem insertAll_nil (d : Dictionary) : d.insertAll [] = d := rfl

theorem insertAll_append (d : Dictionary) (ps qs : List (Text × Text)) :
    d.insertAll (ps ++ qs) = (d.insertAll ps).insertAll qs := by
  simp [insertAll]

theorem find?_insertAll (d : Dictionary) (ps : List (Text × Text)) (q : Text) :
    (d.insertAll ps).find? q = (ps.reverse.lookup q).or (d.find? q) := by
  induction ps generalizing d with
  | nil => simp
  | cons p ps ih =>
    obtain ⟨k, v⟩ := p
    have : d.insertAll ((k, v) :: ps) = (d.insert k v).insertAll ps := rfl
    rw [this, ih, find?_insert, List.reverse_cons, List.lookup_append]
    by_cases h : q = k
    · subst h; cases ps.reverse.lookup q <;> simp
    · have hq : (q == k) = false := by simpa using h
      cases ps.reverse.lookup q <;> simp [h, hq]

theorem find?_ofList (ps : List (Text × Text)) (q : Text) :
    (ofList ps).find? q = ps.reverse.lookup q := by
  simp [ofList, find?_insertAll]

/-- what a dictionary of pairs holds under a name is the last pair of that name -/
theorem find?_ofList_eq_getLast? (ps : List (Text × Text)) (q : Text) :
    (ofList ps).find? q = ((ps.filter fun p => p.1 = q).getLast?).map Prod.snd := by
  rw [find?_ofList, List.getLast?_eq_head?_reverse, ← List.filter_reverse]
  induction ps.reverse with
  | nil => rfl
  | cons p ps ih =>
    obtain ⟨k, v⟩ := p
    by_cases h : k = q
    · subst h
      simp
    · have hq : (q == k) = false := by simpa using Ne.symm h
      rw [List.lookup_cons, hq, List.filter_cons_of_neg (by simpa using h)]
      exact ih

theorem contains_ofList_iff {ps : List (Text × Text)} {q : Text} :
    (ofList ps).contains q = true ↔ q ∈ ps.map Prod.fst := by
  rw [contains, find?_ofList_eq_getLast?, Option.isSome_map, List.getLast?_isSome]
  simp

end Dictionary

end Upkeep
