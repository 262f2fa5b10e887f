import Goshop.Goods.Search
import Goshop.Lib.Paging
import Mathlib.Algebra.Order.Group.Int

/-! The full reindex. `reindexAll` reads the goods page by page with an offset,
while other threads create and delete goods. A deletion in front of the offset
moves every later row one place forward, and the row that moves across the
offset is on no page. -/
namespace Goshop.Goods.Reindex

open Goshop.Errors Goshop.Lib Goshop.Lib.Transaction Goshop.Lib.Process Goshop.Lib.Run
open Goshop.Goods.Model Goshop.Goods.Search

section Rows

def visibleIDs (db : GoodsDB) : List Int :=
  (db.goods.filter fun row => !row.deleted).map (·.id)

def Visible (id : Int) (world : World) : Prop :=
  id ∈ visibleIDs world.db

instance (id : Int) (world : World) : Decidable (Visible id world) :=
  inferInstanceAs (Decidable (id ∈ visibleIDs world.db))

def rank (id : Int) (world : World) : Nat :=
  Paging.rank id (visibleIDs world.db)

variable {id : Int} {db : GoodsDB}

theorem goodsList_ids (page : Nat) :
    ∃ ids : List Int, ids.Pairwise (· ≤ ·) ∧ ids.Perm (visibleIDs db) ∧
      (goodsList db (page + 1) 100).map (·.id) = (ids.drop (page * 100)).take 100 := by
  refine ⟨((db.goods.filter fun row => !row.deleted).insertionSort
    fun first second => first.id ≤ second.id).map (·.id), ?_, ?_, ?_⟩
  · rw [List.pairwise_map]
    have : Std.Total fun first second : GoodsDO => first.id ≤ second.id :=
      ⟨fun first second => Int.le_total first.id second.id⟩
    have : IsTrans GoodsDO fun first second => first.id ≤ second.id :=
      ⟨fun _ _ _ => Int.le_trans⟩
    exact List.pairwise_insertionSort _ _
  · exact (List.perm_insertionSort _ _).map _
  · simp only [goodsList, List.map_take, List.map_drop]
    congr 2
    omega

def shownID (row : GoodsDO) : Option Int :=
  if row.deleted then none else some row.id

theorem visibleIDs_eq : visibleIDs db = db.goods.filterMap shownID := by
  unfold visibleIDs
  induction db.goods with
  | nil => rfl
  | cons row rest ih => cases hrow : row.deleted <;> simp [shownID, hrow, ih]

theorem visibleIDs_rewriteGoods (goods : GoodsDO) :
    visibleIDs (rewriteGoods goods db) = visibleIDs db := by
  rw [visibleIDs_eq, visibleIDs_eq]
  simp only [rewriteGoods, updateGoods, List.filterMap_map]
  congr 1
  funext row
  by_cases hrow : hasID goods.id row
  · simp [hrow, shownID, goodsUpdateValues]
  · simp [hrow]

theorem visibleIDs_hideGoods (hid : 0 < id) :
    visibleIDs (hideGoods id db) = (visibleIDs db).filter (· ≠ id) := by
  rw [visibleIDs_eq, visibleIDs_eq]
  simp only [hideGoods, updateGoods, List.filterMap_map, List.filter_filterMap]
  congr 1
  funext row
  by_cases hrow : hasID id row
  · simp only [hasID, Bool.and_eq_true, decide_eq_true_eq, Bool.not_eq_true'] at hrow
    simp [hasID, shownID, hrow, Option.filter]
  · cases hdeleted : row.deleted with
    | true => simp [hasID, shownID, hdeleted]
    | false =>
      have hne : row.id ≠ id := by
        rintro rfl
        simp [hasID, hid, hdeleted] at hrow
      simp [hasID, shownID, hdeleted, hne, Option.filter]

theorem rank_filter_of_lt {ids : List Int} {other : Int} (hother : other < id) :
    Paging.rank other ids ≤ Paging.rank id (ids.filter (· ≠ other)) := by
  unfold Paging.rank
  rw [List.countP_filter]
  apply List.countP_mono_left
  intro smaller _ hsmaller
  simp only [decide_eq_true_eq] at hsmaller
  simp only [ne_eq, Bool.and_eq_true, decide_eq_true_eq, decide_not, Bool.not_eq_true',
    decide_eq_false_iff_not]
  omega

theorem rank_filter_of_gt {ids : List Int} {other : Int} (hother : id < other) :
    Paging.rank id (ids.filter (· ≠ other)) = Paging.rank id ids := by
  unfold Paging.rank
  rw [List.countP_filter]
  apply List.countP_congr
  intro smaller _
  simp only [ne_eq, Bool.and_eq_true, decide_eq_true_eq, decide_not, Bool.not_eq_true',
    decide_eq_false_iff_not]
  omega

end Rows

section Progress

/-- The world, and the number of pages that the reindex has read. -/
structure Progress where
  world : World
  paged : Nat

def pagesRead : Call → Nat → Nat
  | .listGoods page _, _ => page.toNat
  | _, paged => paged

def execPaged (request : Call) (choice : Choice) (state : Progress) : Reply request × Progress :=
  let result := exec request choice state.world
  (result.1, ⟨result.2, pagesRead request state.paged⟩)

/-- A deletion takes no row from the pages that have been read, as long as there is
a row behind them. -/
def KeepsPages : Call → Choice → Progress → Prop
  | .deleteTxn id, choice, state => choice.outcome ≠ .failBefore → Visible id state.world →
      100 * state.paged ≤ rank id state.world ∨
        (visibleIDs state.world.db).length ≤ 100 * state.paged
  | _, _, _ => True

instance (request : Call) (choice : Choice) (state : Progress) :
    Decidable (KeepsPages request choice state) :=
  match request with
  | .deleteTxn id => inferInstanceAs (Decidable (choice.outcome ≠ .failBefore →
      Visible id state.world → 100 * state.paged ≤ rank id state.world ∨
        (visibleIDs state.world.db).length ≤ 100 * state.paged))
  | .getGoods _ | .getBrand _ | .getCategory _ | .listGoods _ _ | .createTxn _ | .updateTxn _
  | .requeueStale _ _ | .countByStatus _ _ | .claimPending _ _ _ | .searchUpdate _
  | .searchDelete _ | .markDone _ | .markRetry _ _ _ | .markDead _ _ =>
    inferInstanceAs (Decidable True)

def Beyond (id : Int) (state : Progress) : Prop :=
  Visible id state.world ∧ 100 * state.paged ≤ rank id state.world

variable {id : Int} {request : Call} {choice : Choice} {state : Progress}

def WriterCall : Call → Prop
  | .getGoods _ => True
  | .getBrand _ => True
  | .getCategory _ => True
  | .createTxn _ => True
  | .updateTxn _ => True
  | .deleteTxn _ => True
  | _ => False

theorem pagesRead_writer (hcall : WriterCall request) (paged : Nat) :
    pagesRead request paged = paged := by
  cases request with
  | listGoods _ _ => exact hcall.elim
  | _ => rfl

/-- What a writer's call does to the visible ids: nothing, or it adds one or takes
one away. -/
theorem serve_visibleIDs (hcall : WriterCall request) (world : World) :
    visibleIDs (serve request choice world).2.db = visibleIDs world.db ∨
      (∃ added, visibleIDs (serve request choice world).2.db = visibleIDs world.db ++ [added]) ∨
      ∃ deleted, request = .deleteTxn deleted ∧ deleted ∈ visibleIDs world.db ∧
        visibleIDs (serve request choice world).2.db =
          (visibleIDs world.db).filter (· ≠ deleted) := by
  cases request with
  | getGoods _ | getBrand _ | getCategory _ => exact .inl rfl
  | createTxn goods =>
    rcases Txn.commit_cases (createTxn goods) world.db with
      ⟨⟨⟩, db', hrun, hcommit⟩ | ⟨err, -, hcommit⟩
    · simp only [serve, onDB, hcommit]
      obtain ⟨row, -, rfl⟩ := createTxn_ok hrun
      cases hdeleted : row.deleted with
      | true => exact .inl (by simp [visibleIDs, appendEvent, hdeleted])
      | false => exact .inr (.inl ⟨row.id, by simp [visibleIDs, appendEvent, hdeleted]⟩)
    · exact .inl (by simp only [serve, onDB, hcommit])
  | updateTxn goods =>
    rcases Txn.commit_cases (updateTxn goods) world.db with
      ⟨⟨⟩, db', hrun, hcommit⟩ | ⟨err, -, hcommit⟩
    · simp only [serve, onDB, hcommit]
      rw [updateTxn_ok hrun]
      exact .inl (visibleIDs_rewriteGoods goods)
    · exact .inl (by simp only [serve, onDB, hcommit])
  | deleteTxn deleted =>
    rcases Txn.commit_cases (deleteTxn deleted) world.db with
      ⟨⟨⟩, db', hrun, hcommit⟩ | ⟨err, -, hcommit⟩
    · simp only [serve, onDB, hcommit]
      obtain ⟨hfound, rfl⟩ := deleteTxn_ok hrun
      obtain ⟨row, hrow, hhas⟩ := List.any_eq_true.mp hfound
      simp only [hasID, Bool.and_eq_true, decide_eq_true_eq, Bool.not_eq_true'] at hhas
      refine .inr (.inr ⟨deleted, rfl, ?_, visibleIDs_hideGoods hhas.1.2⟩)
      exact List.mem_map.mpr ⟨row, List.mem_filter.mpr ⟨hrow, by simp [hhas.2]⟩, hhas.1.1⟩
    · exact .inl (by simp only [serve, onDB, hcommit])
  | _ => exact hcall.elim

theorem exec_visibleIDs (hcall : WriterCall request) (world : World) :
    visibleIDs (exec request choice world).2.db = visibleIDs world.db ∨
      (∃ added, visibleIDs (exec request choice world).2.db = visibleIDs world.db ++ [added]) ∨
      ∃ deleted, request = .deleteTxn deleted ∧ choice.outcome ≠ .failBefore ∧
        deleted ∈ visibleIDs world.db ∧
        visibleIDs (exec request choice world).2.db =
          (visibleIDs world.db).filter (· ≠ deleted) := by
  have hserved := @serve_visibleIDs request choice hcall world
  unfold exec
  cases houtcome : choice.outcome with
  | failBefore => exact .inl rfl
  | ok | failAfter =>
    refine hserved.imp_right (Or.imp_right ?_)
    rintro ⟨deleted, hrequest, hdeleted⟩
    exact ⟨deleted, hrequest, by simp, hdeleted⟩

/-- The step lemma: a row that stays visible stays behind the pages that have been
read. -/
theorem beyond_exec (hcall : WriterCall request) (hkeeps : KeepsPages request choice state)
    (hvisible : Visible id (exec request choice state.world).2) (h : Beyond id state) :
    Beyond id (execPaged request choice state).2 := by
  refine ⟨hvisible, ?_⟩
  change 100 * pagesRead request state.paged ≤
    Paging.rank id (visibleIDs (exec request choice state.world).2.db)
  rw [pagesRead_writer hcall]
  have hrank : 100 * state.paged ≤ Paging.rank id (visibleIDs state.world.db) := h.2
  unfold Visible at hvisible
  rcases @exec_visibleIDs request choice hcall state.world with
    hsame | ⟨added, hadded⟩ | ⟨deleted, rfl, houtcome, hfound, hfilter⟩
  · rw [hsame]
    exact hrank
  · rw [hadded]
    unfold Paging.rank at hrank ⊢
    rw [List.countP_append]
    omega
  · rw [hfilter] at hvisible ⊢
    have hne : id ≠ deleted := by simpa using (List.mem_filter.mp hvisible).2
    rcases lt_or_gt_of_ne hne with hless | hmore
    · rw [rank_filter_of_gt hless]
      exact hrank
    · rcases hkeeps houtcome hfound with hbehind | hnone
      · exact hbehind.trans (rank_filter_of_lt hmore)
      · have := Paging.rank_lt_length h.1
        omega

end Progress

section Reader

variable (id : Int)

/-- What the reader relies on: the other threads do not read pages, and a row
behind the pages that have been read stays there. -/
def Rely (state state' : Progress) : Prop :=
  state'.paged = state.paged ∧ (Beyond id state → Beyond id state')

def Undisturbed (request : Call) (choice : Choice) (state : Progress) : Prop :=
  KeepsPages request choice state ∧ Visible id (exec request choice state.world).2

/-- The row has been written already, is among the rows that are being written, or
stands behind the pages that have been read. -/
def Due (paged : Nat) (ids : List Int) (state : Progress) : Prop :=
  state.paged = paged ∧ (id ∈ ids ∨ Beyond id state)

variable {id}

theorem due_stable (paged : Nat) (ids : List Int) : Stable (Rely id) (Due id paged ids) := by
  rintro state state' ⟨hpaged, hdue⟩ ⟨hsame, hbeyond⟩
  exact ⟨hsame.trans hpaged, hdue.imp_right hbeyond⟩

theorem due_of_db {paged : Nat} {ids : List Int} {state state' : Progress}
    (hdb : state'.world.db = state.world.db) (hpaged : state'.paged = state.paged)
    (h : Due id paged ids state) : Due id paged ids state' := by
  refine ⟨hpaged.trans h.1, h.2.imp_right fun hbeyond => ?_⟩
  unfold Beyond Visible rank at hbeyond ⊢
  rw [hdb, hpaged]
  exact hbeyond

theorem exec_searchUpdate_db (goods : GoodsSearchDO) (choice : Choice) (world : World) :
    (exec (.searchUpdate goods) choice world).2.db = world.db := by
  refine @call_preserves _ _ _ (fun state : World => state.db = world.db) _ _ _ _ rfl ?_
  change (searchUpdate goods world).2.db = world.db
  unfold searchUpdate
  split <;> rfl

theorem writeRows_safe (paged : Nat) (reindexed : List Int) (rows : List GoodsDO) :
    Safe execPaged (Undisturbed id) (Rely id) (fun _ _ => True)
      (fun result state => ∀ ids, result = .ok ids → Due id paged ids state)
      (Due id paged (reindexed ++ rows.map (·.id))) (writeRows reindexed rows) := by
  induction rows generalizing reindexed with
  | nil =>
    refine .ret (due_stable _ _) ?_
    rintro state hdue ids ⟨⟩
    simpa using hdue
  | cons row rest ih =>
    refine .call (fun _ => Due id paged (reindexed ++ (row :: rest).map (·.id)))
      (due_stable _ _) ?_ fun written => ?_
    · intro state choice hdue _
      exact ⟨trivial, due_of_db (exec_searchUpdate_db _ choice state.world) rfl hdue⟩
    · refine .attempt (due_stable _ _) (fun _ _ _ _ heq => by cases heq) fun _ _ => ?_
      have hrest := ih (reindexed ++ [row.id])
      simpa using hrest

def Paged (paged : Nat) (reindexed : List Int) (reply : Result (List GoodsDO))
    (state : Progress) : Prop :=
  ∀ rows, reply = .ok rows →
    Due id paged (reindexed ++ rows.map (·.id)) state ∧ (rows = [] → id ∈ reindexed)

theorem exec_listGoods {page : Nat} {reindexed : List Int} {choice : Choice} {state : Progress}
    (h : Due id page reindexed state) :
    @Paged id (page + 1) reindexed (execPaged (.listGoods (page + 1) 100) choice state).1
      (execPaged (.listGoods (page + 1) 100) choice state).2 := by
  intro rows hrows
  have hreply : (exec (.listGoods (page + 1) 100) choice state.world).1 = .ok rows := hrows
  have hanswer : goodsList state.world.db (page + 1) 100 = rows :=
    Except.ok.inj (call_value hreply).2
  have hworld : (exec (.listGoods (page + 1) 100) choice state.world).2 = state.world :=
    call_reads rfl
  obtain ⟨hpaged, hdue⟩ := h
  obtain ⟨ids, hsorted, hperm, hpage⟩ := @goodsList_ids state.world.db page
  rw [hanswer] at hpage
  rcases hdue with hdone | ⟨hvisible, hrank⟩
  · exact ⟨⟨by simp [execPaged, pagesRead], .inl (by simp [hdone])⟩, fun _ => hdone⟩
  have hmem : id ∈ ids := hperm.mem_iff.mpr hvisible
  have hrankIDs : Paging.rank id ids = rank id state.world := Paging.rank_perm hperm
  have hlow : page * 100 ≤ Paging.rank id ids := by omega
  refine ⟨⟨by simp [execPaged, pagesRead], ?_⟩, fun hempty => ?_⟩
  · by_cases hhigh : Paging.rank id ids < page * 100 + 100
    · have hread := Paging.mem_page hsorted hmem hlow hhigh
      rw [← hpage] at hread
      exact .inl (List.mem_append_right _ hread)
    · have hrank' : 100 * (page + 1) ≤ rank id state.world := by omega
      refine .inr ⟨?_, ?_⟩
      · simpa [execPaged, hworld] using hvisible
      · simpa [execPaged, pagesRead, hworld] using hrank'
  · rw [hempty, List.map_nil] at hpage
    exact absurd hpage.symm (Paging.page_ne_nil hmem (by decide) hlow)

theorem paged_stable (paged : Nat) (reindexed : List Int) (reply : Result (List GoodsDO)) :
    Stable (Rely id) (@Paged id paged reindexed reply) := by
  intro state state' hpaged hrely rows hrows
  obtain ⟨hdue, hempty⟩ := hpaged rows hrows
  exact ⟨due_stable _ _ _ _ hdue hrely, hempty⟩

theorem reindexPages_safe (pages page : Nat) (reindexed : List Int) :
    Safe execPaged (Undisturbed id) (Rely id) (fun _ _ => True)
      (fun result _ => ∀ ids, result = .ok ids → id ∈ ids)
      (Due id page reindexed) (reindexPages pages (page + 1) reindexed) := by
  induction pages generalizing page reindexed with
  | zero => exact .ret (due_stable _ _) fun _ _ _ heq => by cases heq
  | succ pages ih =>
    refine .call (@Paged id (page + 1) reindexed) (due_stable _ _) ?_ fun reply => ?_
    · intro state choice hdue _
      exact ⟨trivial, exec_listGoods hdue⟩
    · refine .attempt (paged_stable _ _ _) (fun _ _ _ _ heq => by cases heq) fun rows hrows => ?_
      by_cases hempty : rows = []
      · rw [if_pos hempty]
        refine .ret (paged_stable _ _ _) ?_
        rintro state hpaged ids ⟨⟩
        exact (hpaged rows hrows).2 hempty
      · rw [if_neg hempty]
        refine Safe.bind ((writeRows_safe (page + 1) reindexed rows).weaken (paged_stable _ _ _)
          fun state hpaged => (hpaged rows hrows).1) fun written => ?_
        cases written with
        | error err =>
          refine .ret ?_ fun _ _ _ heq => by cases heq
          intro _ _ _ _ _ heq
          cases heq
        | ok ids =>
          have hnext := ih (page + 1) ids
          rw [show ((page + 1 : Nat) : Int) = page + 1 from rfl] at hnext
          refine hnext.weaken ?_ fun state hdue => hdue ids rfl
          rintro state state' hdue hrely _ ⟨⟩
          exact due_stable _ _ _ _ (hdue ids rfl) hrely

end Reader

section Runs

inductive Writer where
  | create (goods : GoodsDO)
  | update (goods : GoodsDO)
  | delete (id : Int)

def Writer.program : Writer → Program (Result (List Int))
  | .create goods => Search.create goods >>= fun result => .ret (result.map fun _ => [])
  | .update goods => Search.update goods >>= fun result => .ret (result.map fun _ => [])
  | .delete id => Search.delete id >>= fun result => .ret (result.map fun _ => [])

theorem checkReferences_writes (goods : GoodsDO) {next : Program (Result Unit)}
    (h : next.Issues WriterCall) : (checkReferences goods next).Issues WriterCall :=
  .call trivial fun _ => .attempt fun _ _ => .call trivial fun _ => .attempt fun _ _ => h

theorem Writer.program_writes (writer : Writer) : writer.program.Issues WriterCall := by
  cases writer with
  | create goods =>
    refine .bind (.attempt fun valid _ => ?_) fun _ => .ret _
    exact checkReferences_writes valid (.call trivial fun _ => .ret _)
  | update goods =>
    refine .bind (.attempt fun valid _ => .call trivial fun _ => .attempt fun _ _ => ?_)
      fun _ => .ret _
    exact checkReferences_writes valid (.call trivial fun _ => .ret _)
  | delete id =>
    refine .bind ?_ fun _ => .ret _
    unfold Search.delete
    split
    · exact .ret _
    · exact .call trivial fun _ => .attempt fun _ _ => .call trivial fun _ => .ret _

variable {ι : Type} [DecidableEq ι]

def reindexing (world : World) (pages : Nat) (writers : ι → Writer) :
    Config Progress (Option ι) Call Reply (Result (List Int)) where
  shared := ⟨world, 0⟩
  threads
    | none => reindexAll pages
    | some thread => (writers thread).program

omit [DecidableEq ι] in
theorem reindexing_safe {id : Int} {world : World} (hvisible : Visible id world) (pages : Nat)
    (writers : ι → Writer) :
    EachSafe execPaged (fun _ => Undisturbed id)
      (fun thread => if thread = none then Rely id else fun _ _ => True)
      (fun thread => if thread = none then fun _ _ => True else Rely id)
      (fun thread result _ => thread = none → ∀ ids, result = .ok ids → id ∈ ids)
      (reindexing world pages writers) := by
  intro thread
  cases thread with
  | none =>
    refine ⟨Due id 0 [], ⟨rfl, .inr ⟨hvisible, Nat.zero_le _⟩⟩, ?_⟩
    simpa [reindexing, reindexAll] using @reindexPages_safe id pages 0 []
  | some thread =>
    refine ⟨fun _ => True, trivial, ?_⟩
    have hsafe : Safe execPaged (Undisturbed id) (fun _ _ => True) (Rely id) (fun _ _ => True)
        (fun _ => True) (writers thread).program := by
      refine (writers thread).program_writes.safe (fun _ _ _ _ => trivial) ?_
      rintro request choice state hcall - ⟨hkeeps, hstays⟩
      exact ⟨⟨pagesRead_writer hcall _, beyond_exec hcall hkeeps hstays⟩, trivial⟩
    simpa [reindexing] using hsafe.mono fun _ _ _ => trivial

theorem undisturbed_along {id : Int} {start : Config Progress (Option ι) Call Reply
      (Result (List Int))} {labels : List (Option ι × Choice)}
    (kept : Along (move execPaged) (Admitted fun _ => KeepsPages) start labels)
    (visible : ∀ done, done <+: labels →
      Visible id (run (move execPaged) start done).shared.world) :
    Along (move execPaged) (Admitted fun _ => Undisturbed id) start labels := by
  have hstates := @along_of_states _ _ (move execPaged) start
    (fun config => Visible id config.shared.world) _ visible
  refine (kept.and hstates).mono ?_
  rintro config label ⟨hkeeps, hvisible⟩
  unfold Admitted at hkeeps ⊢
  cases hnext : config.threads label.1 with
  | ret value => trivial
  | call request next =>
    rw [move_call hnext] at hvisible
    rw [hnext] at hkeeps
    exact ⟨hkeeps, hvisible⟩

/-- In every run in which no deletion disturbs the pages that have been read, the
list that the reindex returns has every row that is visible from its start to its
return. -/
theorem reindex_complete (world : World) (pages : Nat) (writers : ι → Writer)
    (labels : List (Option ι × Choice)) (ids : List Int)
    (kept : Along (move execPaged) (Admitted fun _ => KeepsPages) (reindexing world pages writers)
      labels)
    (returned : (run (move execPaged) (reindexing world pages writers) labels).threads none =
      .ret (.ok ids))
    (id : Int) (visible : ∀ done, done <+: labels →
      Visible id (run (move execPaged) (reindexing world pages writers) done).shared.world) :
    id ∈ ids := by
  have hsafe := (reindexing_safe (visible [] (List.nil_prefix)) pages writers).run
    (fun thread state => ?_) (fun thread other state state' hother hstep => ?_)
    (undisturbed_along kept visible)
  · exact hsafe.returned returned rfl ids rfl
  · cases thread with
    | none => trivial
    | some thread => exact ⟨rfl, fun h => h⟩
  · cases other with
    | none =>
      cases thread with
      | none => exact absurd rfl hother
      | some thread => exact hstep
    | some other => trivial

def stocked (ids : List Int) : World where
  db := { goods := ids.map fun id =>
            { id := id, categoryID := 1, brandsID := 1, name := "goods", goodsSn := "sn"
              storeID := "store" }
          outbox := [], brands := [1], categories := [1] }
  index := fun _ => none

/-- 101 rows. The first page is read and written, goods 1 are deleted, and the second
page, with offset 100, is empty: row 101 has moved to the first page. -/
theorem deletion_hides_last_row :
    let world := stocked ((List.range 101).map fun index : Nat => (index : Int) + 1)
    let start := reindexing world 2 fun _ : Unit => .delete 1
    let plain : Choice := {}
    let labels := List.replicate 101 (none, plain) ++
      [(some (), plain), (some (), plain), (none, plain)]
    let final := run (move execPaged) start labels
    (final.threads none).result =
        some (.ok ((List.range 100).map fun index : Nat => (index : Int) + 1)) ∧
      Visible 101 world ∧
      Along (move execPaged) (fun config label =>
        Visible 101 (move execPaged config label).shared.world) start labels := by
  decide +kernel

theorem reindex_complete_two_rows :
    let start := reindexing (stocked [1, 2]) 3 fun _ : Unit => .delete 2
    let labels : List (Option Unit × Choice) :=
      [(none, {}), (some (), {}), (some (), {}), (none, {}), (none, {}), (none, {})]
    (run (move execPaged) start labels).threads none = .ret (.ok [1, 2]) ∧ (1 : Int) ∈ [1, 2] := by
  intro start labels
  have hreturned : (run (move execPaged) start labels).threads none = .ret (.ok [1, 2]) :=
    Proc.result_eq_some.mp (by decide +kernel)
  have hvisible : ∀ count < 7,
      Visible 1 (run (move execPaged) start (labels.take count)).shared.world := by decide +kernel
  refine ⟨hreturned, reindex_complete _ _ _ labels [1, 2] (by decide +kernel) hreturned 1 ?_⟩
  intro done hdone
  rw [List.prefix_iff_eq_take.mp hdone]
  exact hvisible _ (Nat.lt_succ_of_le hdone.length_le)

end Runs

end Goshop.Goods.Reindex
