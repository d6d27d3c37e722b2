import AssetSeed.Files.Path
import AssetSeed.Proofs.Files.Tree
import AssetSeed.Proofs.Text.Pieces

/-!
# Paths that are spelled out

A path that is spelled as a row of names, from the root or from the current directory, leads to the
place with these names.

## Main definitions

* `Path.spell` — the path with the given names.
* `Path.below` — the path of what is further down.
* `Path.Leads` — the path stands for a place, seen from the current directory.

## Main statements

* `Path.Leads.join` — a name joined to a path leads one step further.
* `Path.parent_spell` — the path without its last name.
* `Path.Leads.size_join` — a path grows with every name.
-/

namespace AssetSeed.Path

open Text FileTree

/-- The path with the given names, from the root or from the current directory. -/
def spell (absolute : Bool) (names : List String) : Path :=
  ⟨String.ofList ((if absolute then ['/'] else []) ++ joinWith ['/'] (names.map String.toList))⟩

/-- The path of what is further down in a directory. -/
def below (path : Path) (rel : List String) : Path :=
  rel.foldl join path

/-- The path is spelled out and stands for a place, seen from the directory `current`. -/
inductive Leads (current : List String) : Path → List String → Prop
  | spelled (absolute : Bool) {names : List String} : names ≠ [] → (∀ name ∈ names, IsName name) →
      Leads current (spell absolute names) ((if absolute then [] else current) ++ names)

section

variable {absolute : Bool} {names : List String} (some : names ≠ [])
  (proper : ∀ name ∈ names, IsName name)

theorem toList_ne_nil {name : String} (isName : IsName name) : name.toList ≠ [] := by
  simpa using isName.ne_empty

theorem not_isIdle {name : String} (isName : IsName name) : ¬ isIdle name.toList := by
  simp only [isIdle, Bool.or_eq_true, decide_eq_true_eq, not_or]
  exact ⟨toList_ne_nil isName, fun here => isName.ne_here (String.toList_inj.1 here)⟩

theorem isAbsolute_eq_false {name : String} (isName : IsName name) : isAbsolute ⟨name⟩ = false := by
  obtain ⟨c, rest, spelled⟩ := List.exists_cons_of_ne_nil (toList_ne_nil isName)
  have slashless := isName.slashless
  rw [spelled, List.mem_cons, not_or] at slashless
  simpa [isAbsolute, spelled, List.isPrefixOf] using slashless.1

theorem toList_spell : (spell absolute names).text.toList =
    (if absolute then ['/'] else []) ++ joinWith ['/'] (names.map String.toList) :=
  String.toList_ofList

theorem text_spell_singleton (name : String) : (spell false [name]).text = name :=
  String.ofList_toList

include some in
theorem text_spell_concat (name : String) : (spell absolute (names ++ [name])).text =
    (spell absolute names).text ++ "/" ++ name := by
  rw [← String.toList_inj]
  simp [spell, joinWith_concat (show names.map String.toList ≠ [] by simpa using some)]

include some proper

/-- The names, in front of which there is nothing. -/
theorem head?_joinWith : ∀ c ∈ (joinWith ['/'] (names.map String.toList)).head?, c ≠ '/' := by
  obtain ⟨first, names, rfl⟩ := List.exists_cons_of_ne_nil some
  have isName := proper first List.mem_cons_self
  obtain ⟨c, rest, spelled⟩ := List.exists_cons_of_ne_nil (toList_ne_nil isName)
  have head : (joinWith ['/'] ((first :: names).map String.toList)).head? = Option.some c := by
    cases names with
    | nil => simp [joinWith, spelled]
    | cons next names => simp [joinWith, spelled]
  have slashless := isName.slashless
  rw [spelled, List.mem_cons, not_or] at slashless
  rw [head]
  rintro _ ⟨⟩
  exact Ne.symm slashless.1

theorem getLast?_joinWith :
    ∀ c ∈ (joinWith ['/'] (names.map String.toList)).getLast?, c ≠ '/' := by
  obtain ⟨before, last, rfl⟩ := names.eq_nil_or_concat'.resolve_left some
  have isName := proper last (by simp)
  have ending : (joinWith ['/'] ((before ++ [last]).map String.toList)).getLast? =
      last.toList.getLast? := by
    rw [List.map_append]
    cases before with
    | nil => rfl
    | cons first before =>
      rw [List.map_singleton, joinWith_concat (by simp)]
      exact List.getLast?_append_of_ne_nil _ (toList_ne_nil isName)
  rw [ending]
  intro c mem same
  exact isName.slashless (same ▸ List.mem_of_getLast? mem)

theorem joinWith_ne_nil : joinWith ['/'] (names.map String.toList) ≠ [] := by
  obtain ⟨first, names, rfl⟩ := List.exists_cons_of_ne_nil some
  have first_ne := toList_ne_nil (proper first List.mem_cons_self)
  cases names with
  | nil => simpa [joinWith] using first_ne
  | cons next names => simp [joinWith_cons_cons]

theorem isAbsolute_spell : (spell absolute names).isAbsolute = absolute := by
  rw [isAbsolute, toList_spell]
  cases absolute with
  | true => rfl
  | false =>
    have head := head?_joinWith some proper
    obtain ⟨c, rest, spelled⟩ := List.exists_cons_of_ne_nil (joinWith_ne_nil some proper)
    rw [spelled] at head ⊢
    simpa [List.isPrefixOf] using Ne.symm (head c rfl)

theorem split_spell : split (· = '/') (spell absolute names).text.toList =
    (if absolute then [[]] else []) ++ names.map String.toList := by
  have pieces : split (· = '/') (joinWith ['/'] (names.map String.toList)) =
      names.map String.toList := by
    refine split_joinWith (by simpa using some) fun piece mem => ?_
    obtain ⟨name, known, rfl⟩ := List.mem_map.1 mem
    exact (proper name known).slashless
  rw [toList_spell]
  cases absolute with
  | true =>
    have root : split (· = '/') ([] ++ '/' :: joinWith ['/'] (names.map String.toList)) =
        [] :: split (· = '/') (joinWith ['/'] (names.map String.toList)) :=
      split_append_cons List.not_mem_nil _
    simpa [pieces] using root
  | false => simpa using pieces

theorem steps_spell : (spell absolute names).steps = (if absolute then [""] else []) ++ names := by
  rw [steps, split_spell some proper]
  cases absolute <;> simp [Function.comp_def]

theorem join_spell {name : String} (isName : IsName name) :
    (spell absolute names).join name = spell absolute (names ++ [name]) := by
  have inhabited : (spell absolute names).text.isEmpty = false := by
    rw [← Bool.not_eq_true, String.isEmpty_iff, ← String.toList_inj, toList_spell]
    simpa using fun _ => joinWith_ne_nil some proper
  have unfinished : endsWith ['/'] (spell absolute names).text.toList = false := by
    rw [← Bool.not_eq_true, endsWith, List.isSuffixOf_iff_suffix, toList_spell]
    rintro ⟨before, ending⟩
    have last := congrArg List.getLast? ending
    rw [List.getLast?_append_of_ne_nil _ (joinWith_ne_nil some proper)] at last
    exact getLast?_joinWith some proper '/' (by simpa using last.symm) rfl
  rw [join, isAbsolute_eq_false isName, inhabited, unfinished]
  exact congrArg Path.mk (text_spell_concat some name).symm

theorem trail_spell : (spell absolute names).trail =
    (names.map String.toList).reverse ++ if absolute then [[]] else [] := by
  have slashes : (if absolute then [([] : List Char)] else []).reverse =
      if absolute then [[]] else [] := by
    cases absolute <;> rfl
  obtain ⟨before, last, rfl⟩ := names.eq_nil_or_concat'.resolve_left some
  have visible := not_isIdle (proper last (by simp))
  rw [trail, split_spell some proper, List.reverse_append, slashes, List.map_append,
    List.map_singleton, List.reverse_append, List.reverse_singleton, List.singleton_append,
    List.cons_append, List.dropWhile_cons_of_neg visible]

/-- The path without its last name. -/
theorem parent_spell {name : String} (isName : IsName name) :
    (spell absolute (names ++ [name])).parent = spell absolute names := by
  have proper' : ∀ other ∈ names ++ [name], IsName other :=
    List.forall_mem_append.2 ⟨proper, List.forall_mem_singleton.2 isName⟩
  have some' : names ++ [name] ≠ [] := by simp
  have above : ((spell absolute (names ++ [name])).trail.drop 1).dropWhile isIdle =
      (names.map String.toList).reverse ++ if absolute then [[]] else [] := by
    obtain ⟨before, last, rfl⟩ := names.eq_nil_or_concat'.resolve_left some
    have visible := not_isIdle (proper last (by simp))
    rw [trail_spell some' proper', List.map_append, List.reverse_append]
    simp only [List.map_append, List.map_singleton, List.reverse_append, List.reverse_singleton,
      List.nil_append, List.cons_append, List.drop_one, List.tail_cons,
      List.dropWhile_cons_of_neg visible]
  have unslashed : (joinWith ['/'] (names.map String.toList)).dropWhile (· = '/') =
      joinWith ['/'] (names.map String.toList) := by
    refine dropWhile_of_stops fun c mem => ?_
    simpa using head?_joinWith some proper c mem
  obtain ⟨first, rest, cons⟩ := List.exists_cons_of_ne_nil
    (show names.map String.toList ≠ [] by simpa using some)
  rw [parent, above, isAbsolute_spell some' proper', spell]
  cases absolute with
  | false => simp [unslashed]
  | true =>
    have root : (joinWith ['/'] ([] :: names.map String.toList)).dropWhile (· = '/') =
        joinWith ['/'] (names.map String.toList) := by
      rw [cons, joinWith_cons_cons, ← cons]
      simpa using unslashed
    simp [root]

end

/-! ## Paths that lead somewhere -/

namespace Leads

variable {current place : List String} {path : Path} {name : String}

/-- A name joined to a path leads one step further. -/
theorem join (leads : Leads current path place) (isName : IsName name) :
    Leads current (path.join name) (place ++ [name]) := by
  cases leads with
  | spelled absolute some proper =>
    rw [join_spell some proper isName, List.append_assoc]
    exact .spelled absolute (by simp)
      (List.forall_mem_append.2 ⟨proper, List.forall_mem_singleton.2 isName⟩)

/-- Every path has a last name, and what is before it is spelled out as well. -/
theorem exists_concat (leads : Leads current path place) : ∃ absolute names name,
    path = spell absolute (names ++ [name]) ∧
      place = ((if absolute then [] else current) ++ names) ++ [name] ∧
      (∀ name ∈ names, IsName name) ∧ IsName name := by
  cases leads with
  | @spelled absolute names some proper =>
    obtain ⟨before, last, rfl⟩ := names.eq_nil_or_concat'.resolve_left some
    obtain ⟨proper, isName⟩ := List.forall_mem_append.1 proper
    exact ⟨absolute, before, last, rfl, (List.append_assoc _ _ _).symm, proper,
      isName last (List.mem_singleton_self last)⟩

theorem text_ne_empty (leads : Leads current path place) : path.text ≠ "" := by
  cases leads with
  | spelled absolute some proper =>
    rw [← String.toList_inj.ne, toList_spell]
    simpa using fun _ => joinWith_ne_nil some proper

theorem zeroless (leads : Leads current path place) : '\x00' ∉ path.text.toList := by
  cases leads with
  | @spelled absolute names some proper =>
    rw [toList_spell, List.mem_append, not_or]
    constructor
    · cases absolute <;> decide
    · intro mem
      obtain slash | ⟨_, known, mem⟩ := mem_joinWith mem
      · exact absurd slash (by decide)
      · obtain ⟨name, found, rfl⟩ := List.mem_map.1 known
        exact (proper name found).zeroless mem

/-- A path grows with every name, by a slash as well. -/
theorem size_join (leads : Leads current path place) (isName : IsName name) :
    (path.join name).text.utf8ByteSize = path.text.utf8ByteSize + 1 + name.utf8ByteSize := by
  cases leads with
  | @spelled absolute names some proper =>
    rw [join_spell some proper isName, text_spell_concat some, String.utf8ByteSize_append,
      String.utf8ByteSize_append]
    rfl

theorem size_lt_join (leads : Leads current path place) (isName : IsName name) :
    path.text.utf8ByteSize < (path.join name).text.utf8ByteSize := by
  rw [leads.size_join isName]
  omega

theorem size_below (leads : Leads current path place) {rel : List String}
    (proper : ∀ name ∈ rel, IsName name) : (path.below rel).text.utf8ByteSize =
      path.text.utf8ByteSize + rel.foldr (fun name size => 1 + name.utf8ByteSize + size) 0 := by
  induction rel generalizing path place with
  | nil => rfl
  | cons name rel ih =>
    obtain ⟨isName, proper⟩ := List.forall_mem_cons.1 proper
    rw [below, List.foldl_cons, ← below, ih (leads.join isName) proper, leads.size_join isName,
      List.foldr_cons]
    omega

end Leads

/-! ## Long names -/

/-- A name of the given length. -/
def longName (length : Nat) : String :=
  String.ofList (List.replicate length 'n')

theorem utf8ByteSize_longName (length : Nat) : (longName length).utf8ByteSize = length := by
  rw [longName]
  induction length with
  | zero => rfl
  | succ length ih =>
    rw [List.replicate_succ, String.ofList_cons, String.utf8ByteSize_append, ih,
      String.utf8ByteSize_singleton, Nat.add_comm]
    rfl

theorem isName_longName {length : Nat} (some : 0 < length) (short : length ≤ 255) :
    IsName (longName length) := by
  have letters {c : Char} (mem : c ∈ (longName length).toList) : c = 'n' := by
    rw [longName, String.toList_ofList] at mem
    exact List.eq_of_mem_replicate mem
  constructor
  · intro same
    have size := utf8ByteSize_longName length
    rw [same, String.utf8ByteSize_empty] at size
    omega
  · intro same
    exact absurd (letters (c := '.') (by rw [same]; decide)) (by decide)
  · intro same
    exact absurd (letters (c := '.') (by rw [same]; decide)) (by decide)
  · exact fun mem => absurd (letters mem) (by decide)
  · exact fun mem => absurd (letters mem) (by decide)
  · rwa [utf8ByteSize_longName]

theorem isName_of_mem_row {length : Nat} (count : Nat) (some : 0 < length) (short : length ≤ 255) :
    ∀ name ∈ List.replicate count (longName length), IsName name := by
  intro name mem
  rw [List.eq_of_mem_replicate mem]
  exact isName_longName some short

end AssetSeed.Path
