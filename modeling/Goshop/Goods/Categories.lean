import Goshop.Goods.Model
import Goshop.Lib.Parents
import Goshop.Lib.Run

/-! The category tree. A category names its parent by id, and 0 stands for none.
The service checks that a positive parent exists and is not the category itself;
the condition under which the parents stay a forest is stronger. -/
namespace Goshop.Goods.Categories

open Goshop.Errors Goshop.Lib Goshop.Lib.GoText Goshop.Lib.Transaction Goshop.Lib.Run
open Goshop.Lib.Parents
open Goshop.Goods.Model (goodsInvalid)

section Model

structure CategoryDO where
  id : Int := 0
  name : String
  parentCategoryID : Int := 0
  level : Int
  isTab : Bool := false
  deleted : Bool := false
deriving DecidableEq, Repr

abbrev CategoryTxn := Txn AppError (List CategoryDO)

def categoryNotFound : AppError := newCode .errCategoryNotFound "category not found"

def validateCategory (category : CategoryDO) (requireID : Bool) : Except AppError CategoryDO :=
  let name := trimSpace category.name
  if requireID ∧ category.id ≤ 0 then .error categoryNotFound
  else if name = "" ∨ category.level ≤ 0 then
    .error (goodsInvalid "category name and level are required")
  else if category.parentCategoryID = category.id ∧ 0 < category.id then
    .error (goodsInvalid "category parent cannot be itself")
  else .ok { category with name := name }

def hasID (id : Int) (row : CategoryDO) : Bool :=
  row.id = id && !row.deleted

/-- The row and its visible children, as `Preload("SubCategory")` loads them. Ids
arrive as `uint64`. -/
def categoriesGet (id : Int) : CategoryTxn (CategoryDO × List CategoryDO) := do
  Txn.guard (id ≠ 0) categoryNotFound
  let rows ← Txn.read
  match rows.find? (hasID id) with
  | some row => return (row, rows.filter fun child => !child.deleted ∧ child.parentCategoryID = id)
  | none => Txn.fail (newCode .errCategoryNotFound "record not found")

/-- An id of 0 leaves the key to `AUTO_INCREMENT`. -/
def insertedID (category : CategoryDO) (rows : List CategoryDO) : Int :=
  if category.id = 0 then Sql.nextId (rows.map (·.id)) else category.id

def categoriesCreate (category : CategoryDO) : CategoryTxn Unit := do
  let rows ← Txn.read
  let row := { category with id := insertedID category rows, deleted := false }
  Txn.guard (Sql.fitsVarchar 20 row.name && !rows.any (·.id = row.id))
    (wrapDatabase "create category")
  Txn.write (rows ++ [row])

def rewritten (id : Int) (change : CategoryDO → CategoryDO) (rows : List CategoryDO) :
    List CategoryDO :=
  rows.map fun row => if hasID id row then change row else row

def updated (category row : CategoryDO) : CategoryDO :=
  { row with
    name := category.name
    parentCategoryID := category.parentCategoryID
    level := category.level
    isTab := category.isTab }

def categoriesUpdate (category : CategoryDO) : CategoryTxn Unit := do
  Txn.guard (0 < category.id) categoryNotFound
  let rows ← Txn.read
  Txn.guard (Sql.fitsVarchar 20 category.name || !rows.any (hasID category.id))
    (wrapDatabase "update category")
  let rows' := rewritten category.id (updated category) rows
  Txn.write rows'
  Txn.when (Sql.affected rows rows' = 0) do
    let _ ← categoriesGet category.id

def categoriesDelete (id : Int) : CategoryTxn Unit := do
  Txn.guard (id ≠ 0) categoryNotFound
  let rows ← Txn.read
  Txn.guard (rows.any (hasID id)) categoryNotFound
  Txn.write (rewritten id ({ · with deleted := true }) rows)

def create (category : CategoryDO) : CategoryTxn Unit := do
  let category ← Txn.lift (validateCategory category false)
  Txn.when (0 < category.parentCategoryID) do
    let _ ← categoriesGet category.parentCategoryID
  categoriesCreate category

def update (category : CategoryDO) : CategoryTxn Unit := do
  let category ← Txn.lift (validateCategory category true)
  let _ ← categoriesGet category.id
  Txn.when (0 < category.parentCategoryID) do
    let _ ← categoriesGet category.parentCategoryID
  categoriesUpdate category

/-- `categoryService.Delete`; the counts are what the tables of goods and of brand
relations hold for the category. -/
def delete (id : Int) (goodsCount relations : Nat) : CategoryTxn Unit := do
  Txn.guard (id ≠ 0) categoryNotFound
  let category ← categoriesGet id
  Txn.guard (category.2 = []) (goodsInvalid "category has sub categories")
  Txn.guard (goodsCount = 0) (goodsInvalid "category has goods")
  Txn.guard (relations = 0) (goodsInvalid "category has brand relations")
  categoriesDelete id

inductive Request where
  | create (category : CategoryDO)
  | update (category : CategoryDO)
  | delete (id goodsCount relations : Nat)
deriving DecidableEq, Repr

def body : Request → CategoryTxn Unit
  | .create category => create category
  | .update category => update category
  | .delete id goodsCount relations => delete id goodsCount relations

def step (rows : List CategoryDO) (request : Request) : List CategoryDO :=
  (Txn.commit (body request) rows).2

def Accepted (rows : List CategoryDO) (request : Request) : Prop :=
  (body request rows).toOption.isSome

instance (rows : List CategoryDO) (request : Request) : Decidable (Accepted rows request) :=
  inferInstanceAs (Decidable (_ = true))

end Model

section Effects

/-- The parent column, on the ids of the visible rows. -/
def parentOf (rows : List CategoryDO) (id : Int) : Option Int :=
  (rows.find? (hasID id)).map (·.parentCategoryID)

variable {rows rows' : List CategoryDO}

theorem categoriesGet_ok {id : Int} {found : CategoryDO × List CategoryDO}
    (h : categoriesGet id rows = .ok (found, rows')) :
    rows' = rows ∧ (parentOf rows id).isSome ∧
      (found.2 = [] → ∀ row ∈ rows, row.deleted = false → row.parentCategoryID ≠ id) := by
  simp only [categoriesGet, Txn.guard_bind_ok, Txn.read_bind] at h
  obtain ⟨-, h⟩ := h
  cases hfind : rows.find? (hasID id) with
  | none =>
    rw [hfind] at h
    cases h
  | some row =>
    rw [hfind] at h
    cases h
    refine ⟨rfl, by simp [parentOf, hfind], ?_⟩
    intro hchildren child hchild hvisible hparent
    rw [List.filter_eq_nil_iff] at hchildren
    exact hchildren child hchild (by simp [hvisible, hparent])

theorem parentCheck_ok {id : Int}
    (h : Txn.when (0 < id) (do let _ ← categoriesGet id) rows = .ok ((), rows')) :
    rows' = rows := by
  rw [Txn.when_ok] at h
  split at h
  · obtain ⟨found, mid, hget, h⟩ := Txn.bind_ok.mp h
    cases h
    exact (categoriesGet_ok hget).1
  · cases h
    rfl

theorem validateCategory_ok {category valid : CategoryDO} {requireID : Bool}
    (h : validateCategory category requireID = .ok valid) :
    valid.id = category.id ∧ valid.parentCategoryID = category.parentCategoryID := by
  simp only [validateCategory] at h
  split_ifs at h
  cases h
  exact ⟨rfl, rfl⟩

theorem parentOf_append {row : CategoryDO} (hvisible : row.deleted = false)
    (hnew : ∀ other ∈ rows, other.id ≠ row.id) :
    parentOf rows row.id = none ∧
      parentOf (rows ++ [row]) =
        Function.update (parentOf rows) row.id (some row.parentCategoryID) := by
  have hnone : rows.find? (hasID row.id) = none := by
    rw [List.find?_eq_none]
    intro other hother
    simp [hasID, hnew other hother]
  refine ⟨by simp [parentOf, hnone], ?_⟩
  funext id
  by_cases hid : id = row.id
  · subst hid
    simp [parentOf, List.find?_append, hnone, hasID, hvisible]
  · simp [parentOf, List.find?_append, hasID, Ne.symm hid, Function.update_of_ne hid]

theorem hasID_eq {id : Int} {row : CategoryDO} :
    hasID id row = true ↔ row.id = id ∧ row.deleted = false := by
  simp [hasID]

theorem parentOf_rewritten_of_ne {id other : Int} {change : CategoryDO → CategoryDO}
    (hother : other ≠ id) (hkeeps : ∀ row, (change row).id = row.id) :
    parentOf (rewritten id change rows) other = parentOf rows other := by
  have hsame : (hasID other ∘ fun row => if hasID id row then change row else row) =
      hasID other := by
    funext row
    by_cases hrow : hasID id row
    · have hid := (hasID_eq.mp hrow).1
      rw [Function.comp_apply, if_pos hrow]
      simp [hasID, hkeeps, hid, Ne.symm hother]
    · simp [hrow]
  unfold parentOf rewritten
  rw [List.find?_map, hsame]
  cases hfind : rows.find? (hasID other) with
  | none => rfl
  | some row =>
    have hid := (hasID_eq.mp (List.find?_some hfind)).1
    simp [hasID, hid, hother]

theorem parentOf_updated (category : CategoryDO) (h : (parentOf rows category.id).isSome) :
    parentOf (rewritten category.id (updated category) rows) =
      Function.update (parentOf rows) category.id (some category.parentCategoryID) := by
  funext id
  by_cases hid : id = category.id
  · subst hid
    have hsame : (hasID category.id ∘ fun row =>
        if hasID category.id row then updated category row else row) = hasID category.id := by
      funext row
      by_cases hrow : hasID category.id row
      · rw [Function.comp_apply, if_pos hrow]
        rfl
      · simp [hrow]
    rw [Function.update_self]
    unfold parentOf rewritten at *
    rw [List.find?_map, hsame]
    cases hfind : rows.find? (hasID category.id) with
    | none => simp [hfind] at h
    | some row => simp [List.find?_some hfind, updated]
  · rw [Function.update_of_ne hid]
    exact parentOf_rewritten_of_ne hid fun _ => rfl

theorem parentOf_hidden (id : Int) :
    parentOf (rewritten id ({ · with deleted := true }) rows) =
      Function.update (parentOf rows) id none := by
  funext other
  by_cases hother : other = id
  · subst hother
    rw [Function.update_self, parentOf, Option.map_eq_none_iff, List.find?_eq_none]
    intro row hrow
    obtain ⟨before, -, rfl⟩ := List.mem_map.mp hrow
    by_cases hbefore : hasID other before
    · rw [if_pos hbefore]
      simp [hasID]
    · rwa [if_neg hbefore]
  · rw [Function.update_of_ne hother]
    exact parentOf_rewritten_of_ne hother fun _ => rfl

theorem create_ok {category : CategoryDO} (h : create category rows = .ok ((), rows')) :
    ∃ id, parentOf rows id = none ∧
      parentOf rows' = Function.update (parentOf rows) id (some category.parentCategoryID) := by
  simp only [create, Txn.lift_bind_ok] at h
  obtain ⟨valid, hvalid, h⟩ := h
  obtain ⟨⟨⟩, mid, hcheck, h⟩ := Txn.bind_ok.mp h
  rw [parentCheck_ok hcheck] at h
  simp only [categoriesCreate, Txn.read_bind, Txn.guard_bind_ok, Txn.write_ok, Bool.and_eq_true,
    Bool.not_eq_true', List.any_eq_false, decide_eq_true_eq] at h
  obtain ⟨⟨-, hnew⟩, h⟩ := h
  cases h
  rw [← (validateCategory_ok hvalid).2]
  exact ⟨_, @parentOf_append rows { valid with id := insertedID valid rows, deleted := false }
    rfl hnew⟩

theorem update_ok {category : CategoryDO} (h : update category rows = .ok ((), rows')) :
    parentOf rows' =
      Function.update (parentOf rows) category.id (some category.parentCategoryID) := by
  simp only [update, Txn.lift_bind_ok] at h
  obtain ⟨valid, hvalid, h⟩ := h
  obtain ⟨found, mid, hget, h⟩ := Txn.bind_ok.mp h
  obtain ⟨hsame, hsome, -⟩ := categoriesGet_ok hget
  rw [hsame] at h
  obtain ⟨⟨⟩, mid', hcheck, h⟩ := Txn.bind_ok.mp h
  rw [parentCheck_ok hcheck] at h
  simp only [categoriesUpdate, Txn.guard_bind_ok, Txn.read_bind, Txn.write_bind, Txn.when_ok] at h
  obtain ⟨-, -, h⟩ := h
  have hrows : rows' = rewritten valid.id (updated valid) rows := by
    split at h
    · obtain ⟨again, mid'', hagain, h⟩ := Txn.bind_ok.mp h
      cases h
      exact (categoriesGet_ok hagain).1
    · cases h
      rfl
  rw [hrows, parentOf_updated valid hsome, (validateCategory_ok hvalid).1,
    (validateCategory_ok hvalid).2]

theorem delete_ok {id : Int} {goodsCount relations : Nat}
    (h : delete id goodsCount relations rows = .ok ((), rows')) :
    (∀ other, parentOf rows other ≠ some id) ∧
      parentOf rows' = Function.update (parentOf rows) id none := by
  simp only [delete, Txn.guard_bind_ok] at h
  obtain ⟨-, h⟩ := h
  obtain ⟨found, mid, hget, h⟩ := Txn.bind_ok.mp h
  obtain ⟨hsame, -, hleaf⟩ := categoriesGet_ok hget
  rw [hsame] at h
  simp only [categoriesDelete, Txn.guard_bind_ok, Txn.read_bind, Txn.write_ok,
    decide_eq_true_eq] at h
  obtain ⟨hchildren, -, -, -, -, h⟩ := h
  cases h
  refine ⟨?_, parentOf_hidden id⟩
  intro other hparent
  obtain ⟨child, hfind, hchild⟩ := Option.map_eq_some_iff.mp hparent
  exact hleaf hchildren child (List.mem_of_find?_eq_some hfind)
    (hasID_eq.mp (List.find?_some hfind)).2 hchild

end Effects

section Tree

/-- What an accepted request has to meet for the parents to stay a forest: the
parent is none or a category, and for an update one that does not stand below the
updated category. -/
def Sound (rows : List CategoryDO) : Request → Prop
  | .create category => Accepted rows (.create category) →
      category.parentCategoryID = 0 ∨ (parentOf rows category.parentCategoryID).isSome
  | .update category => Accepted rows (.update category) →
      category.parentCategoryID = 0 ∨ (parentOf rows category.parentCategoryID).isSome ∧
        ¬Reaches (parentOf rows) 0 category.parentCategoryID category.id
  | .delete _ _ _ => True

variable {rows : List CategoryDO}

theorem forest_step_iff (request : Request) (h : Forest (parentOf rows) 0) :
    Forest (parentOf (step rows request)) 0 ↔ Sound rows request := by
  unfold step
  rcases Txn.commit_cases (body request) rows with
    ⟨⟨⟩, rows', hrun, hcommit⟩ | ⟨err, hrun, hcommit⟩
  · have haccepted : Accepted rows request := by simp [Accepted, hrun, Except.toOption]
    rw [hcommit]
    cases request with
    | create category =>
      obtain ⟨id, hnew, hparents⟩ := create_ok hrun
      simp only [Sound, haccepted, forall_const, hparents]
      exact h.insert_iff hnew _
    | update category =>
      simp only [Sound, haccepted, forall_const, update_ok hrun]
      exact h.update_iff _ _
    | delete id goodsCount relations =>
      obtain ⟨hleaf, hparents⟩ := delete_ok hrun
      simp only [Sound, hparents, iff_true]
      exact h.remove hleaf
  · have hrefused : ¬Accepted rows request := by simp [Accepted, hrun, Except.toOption]
    rw [hcommit]
    refine iff_of_true h ?_
    cases request with
    | create category => exact fun haccepted => absurd haccepted hrefused
    | update category => exact fun haccepted => absurd haccepted hrefused
    | delete id goodsCount relations => trivial

/-- From the empty table on, every category stands below a root in every state
exactly if every accepted request is sound. -/
theorem categories_forest_iff (requests : List Request) :
    (∀ done, done <+: requests → Forest (parentOf (run step [] done)) 0) ↔
      Along step Sound [] requests := by
  have hempty : Forest (parentOf []) 0 := fun _ hsome => by cases hsome
  exact @along_iff_invariant _ _ step Sound [] (fun rows => Forest (parentOf rows) 0) requests
    hempty fun _ request h => forest_step_iff request h

/-- A root becomes the child of its own child, and a category is put below -3. Both
requests are accepted. -/
theorem accepted_update_breaks_forest :
    let tree : List Request := [.create { name := "A", level := 1 },
      .create { name := "B", parentCategoryID := 1, level := 2 }]
    let cycle : Request := .update { id := 1, name := "A", parentCategoryID := 2, level := 1 }
    let orphan : Request := .create { name := "C", parentCategoryID := -3, level := 1 }
    Accepted (run step [] tree) cycle ∧
      ¬Forest (parentOf (run step [] (tree ++ [cycle]))) 0 ∧
      Accepted (run step [] tree) orphan ∧
      ¬Forest (parentOf (run step [] (tree ++ [orphan]))) 0 := by
  intro tree cycle orphan
  refine ⟨by decide +kernel, fun hforest => ?_, by decide +kernel, fun hforest => ?_⟩
  · have hfirst := hforest 1 (by decide +kernel)
    have hdown : Up (parentOf (run step [] (tree ++ [cycle]))) 0 1 2 := by decide +kernel
    have hback : Up (parentOf (run step [] (tree ++ [cycle]))) 0 2 1 := by decide +kernel
    exact hfirst.acyclic (.tail (.single hdown) hback)
  · have hthird := hforest 3 (by decide +kernel)
    have hup : Up (parentOf (run step [] (tree ++ [orphan]))) 0 3 (-3) := by decide +kernel
    exact absurd (hthird.climb hup).isSome (by decide +kernel)

end Tree

end Goshop.Goods.Categories
