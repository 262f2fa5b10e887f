import Goshop.Lib.Process
import Goshop.Order.Data
import Mathlib.Algebra.Order.BigOperators.Group.Finset
import Mathlib.Algebra.Order.Ring.Int

/-! Adding goods to the cart. `CreateCartItem` reads the row of the goods and
then writes the sum it has computed, or inserts a row if it has found none;
`shoppingcart` has no unique key, and nothing is locked in between. -/
namespace Goshop.Order.CartAddition

open Goshop.Errors Goshop.Lib Goshop.Lib.Transaction Goshop.Lib.Process Goshop.Lib.Run
open Goshop.Order.Model

section Model

structure ShopCartDTO where
  user : Int
  goods : Int
  nums : Int
  checked : Bool
deriving DecidableEq, Repr

def itemMissing : AppError :=
  newCode .errShopCartItemNotFound "shop cart item not found"

/-- The check in front of every write to the cart. -/
def validItem (user goods nums : Int) : Bool :=
  0 < user ∧ 0 < goods ∧ 0 < nums

/-- `WHERE user = ? AND goods = ?` on the rows that are not deleted. -/
def inCart (userID goodsID : Int) (row : ShoppingCartDO) : Bool :=
  !row.deleted ∧ row.user = userID ∧ row.goods = goodsID

def cartsGet (db : OrderDB) (userID goodsID : Int) : Except AppError ShoppingCartDO :=
  if userID = 0 ∨ goodsID = 0 then .error itemMissing
  else
    match db.carts.find? (inCart userID goodsID) with
    | some row => .ok row
    | none => .error (newCode .errShopCartItemNotFound "record not found")

def cartsCreate (item : ShopCartDTO) (now : Int) : OrderTxn ShoppingCartDO := do
  Txn.guard (validItem item.user item.goods item.nums) itemMissing
  let db ← Txn.read
  let row : ShoppingCartDO := ⟨Sql.nextId (db.carts.map (·.id)), item.user, item.goods, item.nums,
    item.checked, now, false⟩
  Txn.write { db with carts := db.carts ++ [row] }
  return row

/-- The statement sets the quantity of every row of the goods. -/
def cartsUpdateNum (item : ShoppingCartDO) (now : Int) : OrderTxn Unit := do
  Txn.guard (validItem item.user item.goods item.nums) itemMissing
  let db ← Txn.read
  let rows := db.carts.map fun row =>
    if inCart item.user item.goods row then
      { row with nums := item.nums, checked := item.checked, updateTime := now }
    else row
  Txn.guard (Sql.affected db.carts rows ≠ 0) itemMissing
  Txn.write { db with carts := rows }

inductive Call where
  | get (userID goodsID : Int)
  | create (item : ShopCartDTO)
  | updateNum (item : ShoppingCartDO)
deriving DecidableEq, Repr

abbrev Answer : Call → Type
  | .get _ _ => ShoppingCartDO
  | .create _ => ShoppingCartDO
  | .updateNum _ => Unit

abbrev Reply (request : Call) : Type := Except AppError (Answer request)

structure Choice where
  outcome : Outcome := .ok
  now : Int := 0
deriving DecidableEq, Repr

def serve : (request : Call) → Choice → OrderDB → Reply request × OrderDB
  | .get userID goodsID, _, db => (cartsGet db userID goodsID, db)
  | .create item, choice, db => Txn.commit (cartsCreate item choice.now) db
  | .updateNum item, choice, db => Txn.commit (cartsUpdateNum item choice.now) db

def exec (request : Call) (choice : Choice) (db : OrderDB) : Reply request × OrderDB :=
  call (wrapDatabase "database operation") choice.outcome (serve request choice) db

abbrev Program := Proc Call Reply (Except AppError ShoppingCartDO)

def addNums (left right : Int) : Int :=
  (left + right).bmod (2 ^ 32)

def increased (item : ShopCartDTO) (existing : ShoppingCartDO) : ShoppingCartDO :=
  { existing with nums := addNums existing.nums item.nums, checked := item.checked }

def increase (item : ShopCartDTO) (existing : ShoppingCartDO) : Program :=
  .call (.updateNum (increased item existing)) fun updated =>
    .ret (updated.map fun _ => increased item existing)

def insert (item : ShopCartDTO) : Program :=
  .call (.create item) .ret

def afterGet (item : ShopCartDTO) : Except AppError ShoppingCartDO → Program
  | .ok existing => increase item existing
  | .error err => if err.code = .errShopCartItemNotFound then insert item else .ret (.error err)

def createCartItem (item : ShopCartDTO) : Program :=
  if validItem item.user item.goods item.nums then .call (.get item.user item.goods) (afterGet item)
  else .ret (.error itemMissing)

end Model

section Rows

def quantities (userID goodsID : Int) (db : OrderDB) : List Int :=
  (db.carts.filter (inCart userID goodsID)).map (·.nums)

variable {userID goodsID now : Int} {db db' : OrderDB}

theorem cartsGet_ok {row : ShoppingCartDO} (h : cartsGet db userID goodsID = .ok row) :
    row.user = userID ∧ row.goods = goodsID ∧ row.nums ∈ quantities userID goodsID db := by
  unfold cartsGet at h
  split at h
  · cases h
  · cases hfind : db.carts.find? (inCart userID goodsID) with
    | none =>
      rw [hfind] at h
      cases h
    | some found =>
      rw [hfind] at h
      cases h
      have hrow := List.find?_some hfind
      have hkeys : row.deleted = false ∧ row.user = userID ∧ row.goods = goodsID := by
        simpa [inCart] using hrow
      exact ⟨hkeys.2.1, hkeys.2.2, List.mem_map.mpr
        ⟨row, List.mem_filter.mpr ⟨List.mem_of_find?_eq_some hfind, hrow⟩, rfl⟩⟩

theorem cartsCreate_ok {item : ShopCartDTO} {row : ShoppingCartDO}
    (h : cartsCreate item now db = .ok (row, db')) :
    quantities item.user item.goods db' = quantities item.user item.goods db ++ [item.nums] := by
  simp only [cartsCreate, Txn.guard_bind_ok, Txn.read_bind, Txn.write_bind, Txn.pure_ok] at h
  obtain ⟨-, h⟩ := h
  cases h
  simp [quantities, inCart, List.filter_append]

theorem quantities_set {nums : Int} {checked : Bool} {rows : List ShoppingCartDO} :
    (((rows.map fun row => if inCart userID goodsID row then
        { row with nums := nums, checked := checked, updateTime := now } else row).filter
      (inCart userID goodsID)).map (·.nums)) =
    (rows.filter (inCart userID goodsID)).map fun _ => nums := by
  induction rows with
  | nil => rfl
  | cons row rest ih =>
    by_cases hrow : inCart userID goodsID row
    · have hset : inCart userID goodsID
          { row with nums := nums, checked := checked, updateTime := now } := hrow
      simp [hrow, hset, ih]
    · simp [hrow, ih]

theorem cartsUpdateNum_ok {item : ShoppingCartDO} (h : cartsUpdateNum item now db = .ok ((), db')) :
    quantities item.user item.goods db ≠ [] ∧
      quantities item.user item.goods db' =
        (quantities item.user item.goods db).map fun _ => item.nums := by
  simp only [cartsUpdateNum, Txn.guard_bind_ok, Txn.read_bind, Txn.write_ok, decide_eq_true_eq] at h
  obtain ⟨-, haffected, h⟩ := h
  cases h
  constructor
  · obtain ⟨row, hrow, hchanged⟩ := Sql.affected_map_ne_zero.mp haffected
    have hin : inCart item.user item.goods row := by
      by_contra hout
      rw [if_neg hout] at hchanged
      exact hchanged rfl
    have hmem : row.nums ∈ quantities item.user item.goods db :=
      List.mem_map.mpr ⟨row, List.mem_filter.mpr ⟨hrow, hin⟩, rfl⟩
    exact List.ne_nil_of_mem hmem
  · unfold quantities
    rw [quantities_set, List.map_map]
    rfl

end Rows

section Moves

inductive Stage (item : ShopCartDTO) (seen : Int → Prop) : Program → Prop
  | start : Stage item seen (.call (.get item.user item.goods) (afterGet item))
  | found {existing : ShoppingCartDO} (user : existing.user = item.user)
    (goods : existing.goods = item.goods) (nums : seen existing.nums) :
    Stage item seen (increase item existing)
  | missing : Stage item seen (insert item)
  | returned (result : Except AppError ShoppingCartDO) : Stage item seen (.ret result)

theorem Stage.mono {item : ShopCartDTO} {seen seen' : Int → Prop} {program : Program}
    (h : Stage item seen program) (implies : ∀ nums, seen nums → seen' nums) :
    Stage item seen' program := by
  cases h with
  | start => exact .start
  | found user goods nums => exact .found user goods (implies _ nums)
  | missing => exact .missing
  | returned result => exact .returned result

theorem createCartItem_stage (item : ShopCartDTO) (seen : Int → Prop) :
    Stage item seen (createCartItem item) := by
  unfold createCartItem
  split
  · exact .start
  · exact .returned _

def contribution (item : ShopCartDTO) : Program → Int
  | .ret (.ok _) => item.nums
  | _ => 0

/-- What one step of a call does to the quantities of its goods: it fails, it only
reads, or it writes and returns. -/
inductive Moved (item : ShopCartDTO) (seen : Int → Prop) (before after : List Int) :
    Program → Program → Prop
  | failed {program : Program} (err : AppError) :
    Moved item seen before after program (.ret (.error err))
  | read {program next : Program} (passive : program = .call (.get item.user item.goods)
      (afterGet item) ∨ ∃ result, program = .ret result) (same : after = before)
    (nothing : contribution item next = contribution item program)
    (stage : Stage item (· ∈ before) next) : Moved item seen before after program next
  | updated {existing : ShoppingCartDO} (nums : seen existing.nums) (rows : before ≠ [])
    (set : after = before.map fun _ => addNums existing.nums item.nums) :
    Moved item seen before after (increase item existing) (.ret (.ok (increased item existing)))
  | created {row : ShoppingCartDO} (added : after = before ++ [item.nums]) :
    Moved item seen before after (insert item) (.ret (.ok row))

variable {ι : Type} [DecidableEq ι] {item : ShopCartDTO} {seen : Int → Prop}

theorem get_moved (choice : Choice) (db : OrderDB) :
    Moved item seen (quantities item.user item.goods db)
      (quantities item.user item.goods (exec (.get item.user item.goods) choice db).2)
      (.call (.get item.user item.goods) (afterGet item))
      (afterGet item (exec (.get item.user item.goods) choice db).1) := by
  have hsame : (exec (.get item.user item.goods) choice db).2 = db := call_reads rfl
  rw [hsame]
  cases hget : (exec (.get item.user item.goods) choice db).1 with
  | ok existing =>
    obtain ⟨huser, hgoods, hnums⟩ := cartsGet_ok (call_value hget).2
    exact .read (.inl rfl) rfl rfl (.found huser hgoods hnums)
  | error err =>
    by_cases hcode : err.code = .errShopCartItemNotFound
    · rw [show afterGet item (.error err) = insert item from if_pos hcode]
      exact .read (.inl rfl) rfl rfl .missing
    · rw [show afterGet item (.error err) = .ret (.error err) from if_neg hcode]
      exact .failed err

theorem updateNum_moved {existing : ShoppingCartDO} (huser : existing.user = item.user)
    (hgoods : existing.goods = item.goods) (hnums : seen existing.nums) (choice : Choice)
    (db : OrderDB) :
    Moved item seen (quantities item.user item.goods db)
      (quantities item.user item.goods (exec (.updateNum (increased item existing)) choice db).2)
      (increase item existing)
      (.ret ((exec (.updateNum (increased item existing)) choice db).1.map
        fun _ => increased item existing)) := by
  cases hupdate : (exec (.updateNum (increased item existing)) choice db).1 with
  | error err => exact .failed err
  | ok value =>
    obtain ⟨houtcome, hvalue⟩ := call_value hupdate
    rcases Txn.commit_cases (cartsUpdateNum (increased item existing) choice.now) db with
      ⟨⟨⟩, db', hrun, hcommit⟩ | ⟨err, -, hcommit⟩
    · have hdb : (exec (.updateNum (increased item existing)) choice db).2 = db' := by
        simp only [exec, houtcome, call_okay, serve, hcommit]
      have hrows := cartsUpdateNum_ok hrun
      simp only [increased, huser, hgoods] at hrows
      rw [hdb]
      exact .updated hnums hrows.1 hrows.2
    · simp only [serve, hcommit] at hvalue
      cases hvalue

theorem create_moved (choice : Choice) (db : OrderDB) :
    Moved item seen (quantities item.user item.goods db)
      (quantities item.user item.goods (exec (.create item) choice db).2) (insert item)
      (.ret (exec (.create item) choice db).1) := by
  cases hcreate : (exec (.create item) choice db).1 with
  | error err => exact .failed err
  | ok row =>
    obtain ⟨houtcome, hvalue⟩ := call_value hcreate
    rcases Txn.commit_cases (cartsCreate item choice.now) db with
      ⟨row', db', hrun, hcommit⟩ | ⟨err, -, hcommit⟩
    · have hdb : (exec (.create item) choice db).2 = db' := by
        simp only [exec, houtcome, call_okay, serve, hcommit]
      rw [hdb]
      exact .created (cartsCreate_ok hrun)
    · simp only [serve, hcommit] at hvalue
      cases hvalue

theorem move_moved {config : Config OrderDB ι Call Reply (Except AppError ShoppingCartDO)}
    {label : ι × Choice} (h : Stage item seen (config.threads label.1)) :
    Moved item seen (quantities item.user item.goods config.shared)
      (quantities item.user item.goods (move exec config label).shared)
      (config.threads label.1) ((move exec config label).threads label.1) := by
  generalize hprogram : config.threads label.1 = program at h
  cases h with
  | start =>
    rw [move_call hprogram]
    simpa using get_moved label.2 config.shared
  | found user goods nums =>
    rw [move_call hprogram]
    simpa using updateNum_moved user goods nums label.2 config.shared
  | missing =>
    rw [move_call hprogram]
    simpa using create_moved label.2 config.shared
  | returned result =>
    rw [move_finished hprogram, hprogram]
    exact .read (.inr ⟨result, rfl⟩) rfl rfl (.returned result)

end Moves

section Race

variable {ι : Type}

/-- The write finds in the cart what the call has read. -/
def Unchanged (item : ShopCartDTO) : Call → Choice → OrderDB → Prop
  | .get _ _, _, _ => True
  | .create _, _, db => quantities item.user item.goods db = []
  | .updateNum row, _, db => quantities item.user item.goods db = [row.nums - item.nums]

instance (item : ShopCartDTO) (request : Call) (choice : Choice) (db : OrderDB) :
    Decidable (Unchanged item request choice db) :=
  match request with
  | .get _ _ => inferInstanceAs (Decidable True)
  | .create _ => inferInstanceAs (Decidable (quantities item.user item.goods db = []))
  | .updateNum row => inferInstanceAs
      (Decidable (quantities item.user item.goods db = [row.nums - item.nums]))

def Failed (config : Config OrderDB ι Call Reply (Except AppError ShoppingCartDO)) : Prop :=
  ∃ thread err, config.threads thread = .ret (.error err)

theorem addNums_le {left right : Int} (hleft : -2 ^ 31 ≤ left) (hright : 0 < right) :
    addNums left right ≤ left + right := by
  have hsum := Int.bdiv_add_bmod (left + right) (2 ^ 32)
  have hhigh : (left + right).bmod (2 ^ 32) < ((2 ^ 32 : Nat) + 1) / 2 := Int.bmod_lt (by omega)
  unfold addNums
  omega

theorem le_addNums (left right : Int) : -2 ^ 31 ≤ addNums left right := by
  have hlow : -((2 ^ 32 : Nat) / 2) ≤ (left + right).bmod (2 ^ 32) := Int.le_bmod (by omega)
  unfold addNums
  omega

variable [DecidableEq ι]

theorem Failed.move {config : Config OrderDB ι Call Reply (Except AppError ShoppingCartDO)}
    (h : Failed config) (label : ι × Choice) : Failed (move exec config label) := by
  obtain ⟨thread, err, herr⟩ := h
  exact ⟨thread, err, move_returned herr label⟩

variable [Fintype ι] (items : ι → ShopCartDTO) (initial : List Int)

def expected (threads : ι → Program) : Int :=
  initial.sum + ∑ thread, contribution (items thread) (threads thread)

variable {items initial}

theorem expected_update (threads : ι → Program) (thread : ι) (program : Program) :
    expected items initial (Function.update threads thread program) =
      expected items initial threads - contribution (items thread) (threads thread) +
        contribution (items thread) program := by
  have hnew := Finset.add_sum_erase Finset.univ (fun other => contribution (items other)
    (Function.update threads thread program other)) (Finset.mem_univ thread)
  have hold := Finset.add_sum_erase Finset.univ (fun other => contribution (items other)
    (threads other)) (Finset.mem_univ thread)
  have hrest : ∑ other ∈ Finset.univ.erase thread, contribution (items other)
      (Function.update threads thread program other) =
      ∑ other ∈ Finset.univ.erase thread, contribution (items other) (threads other) :=
    Finset.sum_congr rfl fun other hother => by
      rw [Function.update_of_ne (Finset.ne_of_mem_erase hother)]
  simp only [Function.update_self] at hnew
  unfold expected
  omega

variable (items initial) (userID goodsID : Int)

/-- The cart shows all that has been added, and no call has read more. -/
structure Exact (config : Config OrderDB ι Call Reply (Except AppError ShoppingCartDO)) : Prop where
  shown : quantities userID goodsID config.shared = [] ∧ initial = [] ∧
      expected items initial config.threads = 0 ∨
    quantities userID goodsID config.shared = [expected items initial config.threads]
  column : ∀ nums ∈ quantities userID goodsID config.shared, -2 ^ 31 ≤ nums
  stages : ∀ thread, Stage (items thread)
    (fun seen => -2 ^ 31 ≤ seen ∧ seen ≤ expected items initial config.threads)
    (config.threads thread)

/-- The goods have a second row, or a single row that shows less than has been
added, and then every call has read less. -/
structure Lossy (config : Config OrderDB ι Call Reply (Except AppError ShoppingCartDO)) : Prop where
  shown : 2 ≤ (quantities userID goodsID config.shared).length ∨
    ∃ nums, quantities userID goodsID config.shared = [nums] ∧
      nums < expected items initial config.threads
  column : ∀ nums ∈ quantities userID goodsID config.shared, -2 ^ 31 ≤ nums
  stages : ∀ thread, Stage (items thread)
    (fun seen => -2 ^ 31 ≤ seen ∧ ((quantities userID goodsID config.shared).length = 1 →
      seen < expected items initial config.threads))
    (config.threads thread)

variable {items initial userID goodsID}
  {config : Config OrderDB ι Call Reply (Except AppError ShoppingCartDO)} {label : ι × Choice}

theorem expected_move :
    expected items initial (move exec config label).threads =
      expected items initial config.threads -
        contribution (items label.1) (config.threads label.1) +
        contribution (items label.1) ((move exec config label).threads label.1) := by
  conv_lhs => rw [move_threads]
  exact expected_update _ _ _

omit [Fintype ι] in
theorem stages_move {seen seen' : Int → Prop}
    (h : ∀ thread, Stage (items thread) seen (config.threads thread))
    (implies : ∀ nums, seen nums → seen' nums)
    (moved : Stage (items label.1) seen' ((move exec config label).threads label.1)) (thread : ι) :
    Stage (items thread) seen' ((move exec config label).threads thread) := by
  by_cases hthread : thread = label.1
  · rw [hthread]
    exact moved
  · rw [move_threads, Function.update_of_ne hthread]
    exact (h thread).mono implies

theorem Exact.kept (h : Exact items initial userID goodsID config) {row : ShoppingCartDO}
    (returned : (move exec config label).threads label.1 = .ret (.ok row))
    (grown : expected items initial config.threads ≤
      expected items initial (move exec config label).threads)
    (shown : quantities userID goodsID (move exec config label).shared =
      [expected items initial (move exec config label).threads])
    (column : ∀ nums ∈ quantities userID goodsID (move exec config label).shared, -2 ^ 31 ≤ nums) :
    Exact items initial userID goodsID (move exec config label) := by
  refine ⟨.inr shown, column, stages_move h.stages ?_ (returned ▸ .returned _)⟩
  rintro nums ⟨hlow, hseen⟩
  exact ⟨hlow, hseen.trans grown⟩

theorem Exact.lost (h : Exact items initial userID goodsID config) {row : ShoppingCartDO}
    (returned : (move exec config label).threads label.1 = .ret (.ok row))
    (grown : expected items initial config.threads <
      expected items initial (move exec config label).threads)
    (shown : 2 ≤ (quantities userID goodsID (move exec config label).shared).length ∨
      ∃ nums, quantities userID goodsID (move exec config label).shared = [nums] ∧
        nums < expected items initial (move exec config label).threads)
    (column : ∀ nums ∈ quantities userID goodsID (move exec config label).shared, -2 ^ 31 ≤ nums) :
    Lossy items initial userID goodsID (move exec config label) := by
  refine ⟨shown, column, stages_move h.stages ?_ (returned ▸ .returned _)⟩
  rintro nums ⟨hlow, hseen⟩
  exact ⟨hlow, fun _ => hseen.trans_lt grown⟩

variable (items initial) in
theorem expected_returned {before : Program} {row : ShoppingCartDO}
    (hbefore : config.threads label.1 = before) (nothing : contribution (items label.1) before = 0)
    (hafter : (move exec config label).threads label.1 = .ret (.ok row)) :
    expected items initial (move exec config label).threads =
      expected items initial config.threads + (items label.1).nums := by
  rw [expected_move, hbefore, nothing, hafter, sub_zero]
  rfl

theorem expected_read
    (nothing : contribution (items label.1) ((move exec config label).threads label.1) =
      contribution (items label.1) (config.threads label.1)) :
    expected items initial (move exec config label).threads =
      expected items initial config.threads := by
  rw [expected_move, nothing]
  omega

theorem Exact.read (h : Exact items initial userID goodsID config)
    (same : quantities userID goodsID (move exec config label).shared =
      quantities userID goodsID config.shared)
    (nothing : contribution (items label.1) ((move exec config label).threads label.1) =
      contribution (items label.1) (config.threads label.1))
    (stage : Stage (items label.1) (· ∈ quantities userID goodsID config.shared)
      ((move exec config label).threads label.1)) :
    Exact items initial userID goodsID (move exec config label) := by
  refine ⟨by rw [same, expected_read nothing]; exact h.shown, by rw [same]; exact h.column, ?_⟩
  rw [expected_read nothing]
  refine stages_move h.stages (fun _ hseen => hseen) (stage.mono fun nums hnums => ?_)
  refine ⟨h.column nums hnums, ?_⟩
  rcases h.shown with ⟨hnone, -⟩ | hone
  · simp [hnone] at hnums
  · simp only [hone, List.mem_singleton] at hnums
    omega

theorem Lossy.read (h : Lossy items initial userID goodsID config)
    (same : quantities userID goodsID (move exec config label).shared =
      quantities userID goodsID config.shared)
    (nothing : contribution (items label.1) ((move exec config label).threads label.1) =
      contribution (items label.1) (config.threads label.1))
    (stage : Stage (items label.1) (· ∈ quantities userID goodsID config.shared)
      ((move exec config label).threads label.1)) :
    Lossy items initial userID goodsID (move exec config label) := by
  refine ⟨by rw [same, expected_read nothing]; exact h.shown, by rw [same]; exact h.column, ?_⟩
  rw [same, expected_read nothing]
  refine stages_move h.stages (fun _ hseen => hseen) (stage.mono fun nums hnums => ?_)
  refine ⟨h.column nums hnums, fun hlength => ?_⟩
  rcases h.shown with htwo | ⟨shown, hone, hless⟩
  · omega
  · simp only [hone, List.mem_singleton] at hnums
    omega

variable (same : ∀ thread, (items thread).user = userID ∧ (items thread).goods = goodsID)
  (positive : ∀ thread, 0 < (items thread).nums)
include same positive

theorem Exact.updated (h : Exact items initial userID goodsID config) {existing : ShoppingCartDO}
    (before : config.threads label.1 = increase (items label.1) existing)
    (after : (move exec config label).threads label.1 =
      .ret (.ok (increased (items label.1) existing)))
    (seen : -2 ^ 31 ≤ existing.nums ∧ existing.nums ≤ expected items initial config.threads)
    (rows : quantities userID goodsID config.shared ≠ [])
    (set : quantities userID goodsID (move exec config label).shared =
      (quantities userID goodsID config.shared).map fun _ =>
        addNums existing.nums (items label.1).nums) :
    Admitted (fun thread => Unchanged (items thread)) config label ∧
        Exact items initial userID goodsID (move exec config label) ∨
      ¬Admitted (fun thread => Unchanged (items thread)) config label ∧
        Lossy items initial userID goodsID (move exec config label) := by
  have hpos := positive label.1
  have hone := h.shown.resolve_left fun hnone => rows hnone.1
  have hle := addNums_le seen.1 hpos
  have hnext := expected_returned items initial before rfl after
  have hfresh : Admitted (fun thread => Unchanged (items thread)) config label ↔
      addNums existing.nums (items label.1).nums =
        expected items initial (Process.move exec config label).threads := by
    simp only [Admitted, before, increase, Unchanged, (same label.1).1, (same label.1).2, hone,
      increased, List.cons.injEq, and_true]
    omega
  rw [hone, List.map_singleton] at set
  have hcolumn : ∀ nums ∈ quantities userID goodsID (Process.move exec config label).shared,
      -2 ^ 31 ≤ nums := by
    rw [set, List.forall_mem_singleton]
    exact le_addNums _ _
  by_cases hexact : addNums existing.nums (items label.1).nums =
      expected items initial (Process.move exec config label).threads
  · exact .inl ⟨hfresh.mpr hexact, h.kept after (by omega) (hexact ▸ set) hcolumn⟩
  · exact .inr ⟨fun fresh => hexact (hfresh.mp fresh),
      h.lost after (by omega) (.inr ⟨_, set, by omega⟩) hcolumn⟩

theorem Exact.created (h : Exact items initial userID goodsID config) {row : ShoppingCartDO}
    (before : config.threads label.1 = insert (items label.1))
    (after : (move exec config label).threads label.1 = .ret (.ok row))
    (added : quantities userID goodsID (move exec config label).shared =
      quantities userID goodsID config.shared ++ [(items label.1).nums]) :
    Admitted (fun thread => Unchanged (items thread)) config label ∧
        Exact items initial userID goodsID (move exec config label) ∨
      ¬Admitted (fun thread => Unchanged (items thread)) config label ∧
        Lossy items initial userID goodsID (move exec config label) := by
  have hpos := positive label.1
  have hnext := expected_returned items initial before rfl after
  have hfresh : Admitted (fun thread => Unchanged (items thread)) config label ↔
      quantities userID goodsID config.shared = [] := by
    simp only [Admitted, before, insert, Unchanged, (same label.1).1, (same label.1).2]
  have hcolumn : ∀ nums ∈ quantities userID goodsID (Process.move exec config label).shared,
      -2 ^ 31 ≤ nums := by
    rw [added, List.forall_mem_append, List.forall_mem_singleton]
    exact ⟨h.column, by omega⟩
  rcases h.shown with ⟨hnone, -, hzero⟩ | hone
  · refine .inl ⟨hfresh.mpr hnone, h.kept after (by omega) ?_ hcolumn⟩
    rw [added, hnone, hnext, hzero, zero_add]
    rfl
  · refine .inr ⟨fun fresh => ?_, h.lost after (by omega) (.inl ?_) hcolumn⟩
    · rw [hfresh, hone] at fresh
      cases fresh
    · simp [added, hone]

/-- The step lemma: a write that finds the cart as it was read keeps it exact, and
any other one loses what has been added in between. -/
theorem Exact.move (h : Exact items initial userID goodsID config) :
    Failed (move exec config label) ∨
      Admitted (fun thread => Unchanged (items thread)) config label ∧
        Exact items initial userID goodsID (move exec config label) ∨
      ¬Admitted (fun thread => Unchanged (items thread)) config label ∧
        Lossy items initial userID goodsID (move exec config label) := by
  have hmoved := move_moved (h.stages label.1)
  rw [(same label.1).1, (same label.1).2] at hmoved
  generalize hafter : (Process.move exec config label).threads label.1 = after at hmoved
  generalize hbefore : config.threads label.1 = before at hmoved
  cases hmoved with
  | failed err => exact .inl ⟨label.1, err, hafter⟩
  | read passive hsame nothing stage =>
    subst hafter hbefore
    refine .inr (.inl ⟨?_, h.read hsame nothing stage⟩)
    rcases passive with hget | ⟨result, hreturned⟩
    · simp [Admitted, hget, Unchanged]
    · simp [Admitted, hreturned]
  | updated nums rows set => exact .inr (h.updated same positive hbefore hafter nums rows set)
  | created added => exact .inr (h.created same positive hbefore hafter added)

omit same in
theorem Lossy.updated (h : Lossy items initial userID goodsID config) {existing : ShoppingCartDO}
    (before : config.threads label.1 = increase (items label.1) existing)
    (after : (Process.move exec config label).threads label.1 =
      .ret (.ok (increased (items label.1) existing)))
    (seen : -2 ^ 31 ≤ existing.nums ∧
      ((quantities userID goodsID config.shared).length = 1 →
        existing.nums < expected items initial config.threads))
    (set : quantities userID goodsID (Process.move exec config label).shared =
      (quantities userID goodsID config.shared).map fun _ =>
        addNums existing.nums (items label.1).nums) :
    Lossy items initial userID goodsID (Process.move exec config label) := by
  have hpos := positive label.1
  have hle := addNums_le seen.1 hpos
  have hnext := expected_returned items initial before rfl after
  have hlength : (quantities userID goodsID (Process.move exec config label).shared).length =
      (quantities userID goodsID config.shared).length := by rw [set, List.length_map]
  refine ⟨?_, ?_, stages_move h.stages ?_ (after ▸ .returned _)⟩
  · rw [hlength]
    refine h.shown.imp_right ?_
    rintro ⟨shown, hone, hless⟩
    have hseen := seen.2 (by rw [hone]; rfl)
    exact ⟨addNums existing.nums (items label.1).nums, by rw [set, hone]; rfl, by omega⟩
  · intro written hwritten
    rw [set, List.mem_map] at hwritten
    obtain ⟨-, -, rfl⟩ := hwritten
    exact le_addNums _ _
  · rintro nums ⟨hlow, hseen⟩
    refine ⟨hlow, fun hone => ?_⟩
    have := hseen (hlength ▸ hone)
    omega

omit same in
theorem Lossy.created (h : Lossy items initial userID goodsID config) {row : ShoppingCartDO}
    (after : (Process.move exec config label).threads label.1 = .ret (.ok row))
    (added : quantities userID goodsID (Process.move exec config label).shared =
      quantities userID goodsID config.shared ++ [(items label.1).nums]) :
    Lossy items initial userID goodsID (Process.move exec config label) := by
  have hpos := positive label.1
  have hlength : 2 ≤ (quantities userID goodsID
      (Process.move exec config label).shared).length := by
    rw [added, List.length_append, List.length_singleton]
    rcases h.shown with htwo | ⟨shown, hone, -⟩
    · omega
    · simp [hone]
  refine ⟨.inl hlength, ?_, stages_move h.stages ?_ (after ▸ .returned _)⟩
  · rw [added, List.forall_mem_append, List.forall_mem_singleton]
    exact ⟨h.column, by omega⟩
  · rintro seen ⟨hlow, -⟩
    exact ⟨hlow, fun hone => by omega⟩

/-- What has been lost does not come back: every later write starts from a quantity
that is too small, or adds to a second row. -/
theorem Lossy.move (h : Lossy items initial userID goodsID config) :
    Lossy items initial userID goodsID (move exec config label) ∨
      Failed (Process.move exec config label) := by
  have hmoved := move_moved (h.stages label.1)
  rw [(same label.1).1, (same label.1).2] at hmoved
  generalize hafter : (Process.move exec config label).threads label.1 = after at hmoved
  generalize hbefore : config.threads label.1 = before at hmoved
  cases hmoved with
  | failed err => exact .inr ⟨label.1, err, hafter⟩
  | read passive hsame nothing stage =>
    subst hafter hbefore
    exact .inl (h.read hsame nothing stage)
  | updated nums rows set => exact .inl (h.updated positive hbefore hafter nums set)
  | created added => exact .inl (h.created positive hafter added)

theorem run_exact_or_lossy (labels : List (ι × Choice))
    (h : Exact items initial userID goodsID config) :
    (Along (move exec) (Admitted fun thread => Unchanged (items thread)) config labels →
      Exact items initial userID goodsID (run (move exec) config labels) ∨
        Failed (run (move exec) config labels)) ∧
    (¬Along (move exec) (Admitted fun thread => Unchanged (items thread)) config labels →
      Lossy items initial userID goodsID (run (move exec) config labels) ∨
        Failed (run (move exec) config labels)) := by
  apply @run_inv_or_broken _ _ _ _ _
    (fun config => Exact items initial userID goodsID config ∨ Failed config)
    (fun config => Lossy items initial userID goodsID config ∨ Failed config)
  · rintro config label (h | h) fresh
    · rcases h.move same positive with hfailed | ⟨-, hexact⟩ | ⟨hstale, -⟩
      · exact .inr hfailed
      · exact .inl hexact
      · exact absurd fresh hstale
    · exact .inr (h.move label)
  · rintro config label (h | h) stale
    · rcases h.move same positive with hfailed | ⟨hfresh, -⟩ | ⟨-, hlossy⟩
      · exact .inr hfailed
      · exact absurd hfresh stale
      · exact .inl hlossy
    · exact .inr (h.move label)
  · rintro config label (h | h)
    · exact h.move same positive
    · exact .inr (h.move label)
  · exact .inl h

end Race

section Additions

variable {ι : Type} [DecidableEq ι] [Fintype ι] (items : ι → ShopCartDTO)

def calls (start : OrderDB) : Config OrderDB ι Call Reply (Except AppError ShoppingCartDO) :=
  ⟨start, fun thread => createCartItem (items thread)⟩

variable {items} {start : OrderDB} {userID goodsID : Int}

omit [DecidableEq ι] in
theorem calls_exact (positive : ∀ thread, validItem (items thread).user (items thread).goods
      (items thread).nums = true)
    (one : (quantities userID goodsID start).length ≤ 1)
    (column : ∀ nums ∈ quantities userID goodsID start, Sql.FitsInt nums) :
    Exact items (quantities userID goodsID start) userID goodsID (calls items start) := by
  have hnothing : expected items (quantities userID goodsID start) (calls items start).threads =
      (quantities userID goodsID start).sum := by
    have hzero : ∀ thread, contribution (items thread) ((calls items start).threads thread) = 0 := by
      intro thread
      simp [calls, createCartItem, positive thread, contribution]
    simp [expected, hzero]
  refine ⟨?_, ?_, fun thread => createCartItem_stage _ _⟩
  · rw [hnothing]
    change quantities userID goodsID start = [] ∧ _ ∨ quantities userID goodsID start = _
    cases hrows : quantities userID goodsID start with
    | nil => simp
    | cons nums rest =>
      rw [hrows, List.length_cons] at one
      have hrest : rest = [] := List.eq_nil_of_length_eq_zero (by omega)
      simp [hrest]
  · intro nums hnums
    have := (column nums hnums).1
    omega

omit [Fintype ι] in
theorem valid_of_success {labels : List (ι × Choice)} {thread : ι}
    (success : ∃ row,
      (run (move exec) (calls items start) labels).threads thread = .ret (.ok row)) :
    validItem (items thread).user (items thread).goods (items thread).nums = true := by
  by_contra hinvalid
  have hrefused : (calls items start).threads thread = .ret (.error itemMissing) :=
    if_neg hinvalid
  obtain ⟨row, hrow⟩ := success
  rw [run_returned hrefused labels] at hrow
  cases hrow

section Success

variable {config : Config OrderDB ι Call Reply (Except AppError ShoppingCartDO)}
  (success : ∀ thread, ∃ row, config.threads thread = .ret (.ok row))
include success

omit [DecidableEq ι] [Fintype ι] in
theorem not_failed : ¬Failed config := by
  rintro ⟨thread, err, herr⟩
  obtain ⟨row, hrow⟩ := success thread
  rw [herr] at hrow
  cases hrow

omit [DecidableEq ι] in
theorem expected_of_success (items : ι → ShopCartDTO) (initial : List Int) :
    expected items initial config.threads = initial.sum + ∑ thread, (items thread).nums := by
  unfold expected
  congr 1
  refine Finset.sum_congr rfl fun thread _ => ?_
  obtain ⟨row, hrow⟩ := success thread
  rw [hrow]
  rfl

end Success

/-- Any number of concurrent calls that all succeed leave one row with everything
that has been added exactly if each of their writes finds the cart as it was read
(and there is a row at the start or a call that makes one). -/
theorem additions_kept_iff (items : ι → ShopCartDTO) (userID goodsID : Int) (start : OrderDB)
    (labels : List (ι × Choice))
    (same : ∀ thread, (items thread).user = userID ∧ (items thread).goods = goodsID)
    (one : (quantities userID goodsID start).length ≤ 1)
    (column : ∀ nums ∈ quantities userID goodsID start, Sql.FitsInt nums)
    (success : ∀ thread, ∃ row,
      (run (move exec) (calls items start) labels).threads thread = .ret (.ok row)) :
    quantities userID goodsID (run (move exec) (calls items start) labels).shared =
      [(quantities userID goodsID start).sum + ∑ thread, (items thread).nums] ↔
    (quantities userID goodsID start ≠ [] ∨ Nonempty ι) ∧
      Along (move exec) (Admitted fun thread => Unchanged (items thread)) (calls items start)
        labels := by
  have hvalid : ∀ thread, validItem (items thread).user (items thread).goods
      (items thread).nums = true := fun thread => valid_of_success (success thread)
  have hpositive : ∀ thread, 0 < (items thread).nums := fun thread =>
    (of_decide_eq_true (hvalid thread)).2.2
  have hsuccess := not_failed success
  have hall := expected_of_success success items (quantities userID goodsID start)
  obtain ⟨hkept, hlost⟩ := run_exact_or_lossy same hpositive labels (calls_exact hvalid one column)
  constructor
  · intro hshown
    refine ⟨?_, ?_⟩
    · by_contra hnothing
      rw [not_or, not_not, not_nonempty_iff] at hnothing
      obtain ⟨hempty, hnone⟩ := hnothing
      have hlabels : labels = [] := by
        cases labels with
        | nil => rfl
        | cons label rest => exact hnone.elim label.1
      rw [hlabels] at hshown
      exact absurd (hempty.symm.trans hshown) (List.cons_ne_nil _ _).symm
    · by_contra hstale
      rcases ((hlost hstale).resolve_right hsuccess).shown with htwo | ⟨nums, hnums, hless⟩
      · rw [hshown, List.length_singleton] at htwo
        omega
      · rw [hshown, ← hall, List.cons.injEq] at hnums
        omega
  · rintro ⟨hsome, hfresh⟩
    rcases ((hkept hfresh).resolve_right hsuccess).shown with ⟨-, hempty, hzero⟩ | hone
    · obtain ⟨thread⟩ := hsome.resolve_left (absurd hempty)
      have hsum : 0 < ∑ thread, (items thread).nums :=
        Finset.sum_pos (fun thread _ => hpositive thread) ⟨thread, Finset.mem_univ thread⟩
      rw [hall, hempty, List.sum_nil] at hzero
      omega
    · rw [hone, hall]

/-- Two calls that both read before either writes: an empty cart gets two rows, and of
two additions to a row that shows 1 only the later one is left. -/
theorem concurrent_additions_lost :
    let items : Fin 2 → ShopCartDTO := fun thread => ⟨7, 5, thread + 2, true⟩
    let labels : List (Fin 2 × Choice) := [(0, {}), (1, {}), (0, ⟨.ok, 1⟩), (1, ⟨.ok, 2⟩)]
    let oneRow : OrderDB := { noOrders with carts := [⟨1, 7, 5, 1, true, 0, false⟩] }
    let inserted := run (move exec) (calls items noOrders) labels
    let increased := run (move exec) (calls items oneRow) labels
    (∀ thread, (inserted.threads thread).result.any (·.isOk)) ∧
      quantities 7 5 inserted.shared = [2, 3] ∧
      (∀ thread, (increased.threads thread).result.any (·.isOk)) ∧
      quantities 7 5 increased.shared = [4] := by
  decide +kernel

theorem additions_kept_one_after_the_other :
    let items : Fin 2 → ShopCartDTO := fun thread => ⟨7, 5, thread + 2, true⟩
    let labels : List (Fin 2 × Choice) := [(0, {}), (0, ⟨.ok, 1⟩), (1, {}), (1, ⟨.ok, 2⟩)]
    let final := run (move exec) (calls items noOrders) labels
    quantities 7 5 final.shared = [5] ∧
      (quantities 7 5 final.shared =
          [(quantities 7 5 noOrders).sum + ∑ thread, (items thread).nums] ↔
        (quantities 7 5 noOrders ≠ [] ∨ Nonempty (Fin 2)) ∧
          Along (move exec) (Admitted fun thread => Unchanged (items thread))
            (calls items noOrders) labels) :=
  ⟨by decide +kernel, additions_kept_iff _ 7 5 noOrders _ (by decide) (by decide) (by decide)
    fun thread => ⟨(if thread = 0 then ⟨1, 7, 5, 2, true, 1, false⟩
      else ⟨1, 7, 5, 5, true, 1, false⟩), Proc.result_eq_some.mp (by revert thread; decide +kernel)⟩⟩

end Additions

end Goshop.Order.CartAddition
