import Mathlib.Logic.Function.Basic
import Mathlib.Data.List.Basic

/-!
# 取り消しの状態、トークン、ソース

`cancel.hpp` の `cancel_state`、`cancel_token`、`cancel_source` を写す。`std::shared_ptr` が指す
`cancel_state` はヒープ上の番号で表し、ソースとトークンの変数は番号の付いた置き場に置く。
`request_cancel` が呼ばれた状態の番号は、証明のための記録 `requested` に残す。
-/

namespace Cnerium.Cancel

/-- `std::shared_ptr<cancel_state>` が指す先。ヒープ上の番号。 -/
abbrev Ptr := Nat

/-- `cancel_state` の並び。`flag p` は `cancelled_` の値、`next` は次に割り当てる番号。 -/
structure Heap where
  flag : Ptr → Bool
  next : Ptr

/-- `cancel_state::request_cancel`：`cancelled_` に `true` を書く。 -/
def Heap.requestCancel (h : Heap) (p : Ptr) : Heap :=
  { h with flag := Function.update h.flag p true }

/-- `cancel_state::is_cancelled`。 -/
def Heap.isCancelled (h : Heap) (p : Ptr) : Bool := h.flag p

/-- `cancel_token`：空であるか、状態を一つ共有する。 -/
structure CancelToken where
  st : Option Ptr
deriving DecidableEq, Repr

/-- `cancel_source`：状態を共有する書き手。移動元では `st_` が空になる。 -/
structure CancelSource where
  st : Option Ptr
deriving DecidableEq, Repr

/-- `cancel_token::can_cancel`。 -/
def CancelToken.canCancel (t : CancelToken) : Bool := t.st.isSome

/-- `cancel_token::is_cancelled`：空なら `false`。 -/
def CancelToken.isCancelled (h : Heap) (t : CancelToken) : Bool :=
  match t.st with
  | some p => h.isCancelled p
  | none => false

/-- `cancel_source::is_cancelled`。 -/
def CancelSource.isCancelled (h : Heap) (s : CancelSource) : Bool :=
  match s.st with
  | some p => h.isCancelled p
  | none => false

/-- `cancel_source::token`。 -/
def CancelSource.token (s : CancelSource) : CancelToken := ⟨s.st⟩

/-- `cancel_source::request_cancel`：空なら何もしない。 -/
def CancelSource.requestCancel (h : Heap) (s : CancelSource) : Heap :=
  match s.st with
  | some p => h.requestCancel p
  | none => h

/-! ## ソースとトークンの変数からなる世界 -/

/-- 番号の付いたソースとトークンの変数、共有される状態、`request_cancel` が届いた状態の記録。 -/
structure World where
  heap : Heap
  sources : Nat → CancelSource
  tokens : Nat → CancelToken
  requested : List Ptr

/-- 取り消しに関わる操作。観測（`is_cancelled`、`can_cancel`）は状態を変えない。 -/
inductive Op
  /-- `s_i = cancel_source{}`：`make_shared` で新しい状態を作る。 -/
  | makeSource (i : Nat)
  /-- `t_j = s_i.token()`。 -/
  | token (i j : Nat)
  /-- `t_j = cancel_token{}`。 -/
  | defaultToken (j : Nat)
  /-- `s_i' = s_i`（複製）。 -/
  | copySource (i i' : Nat)
  /-- `s_i' = std::move(s_i)`。 -/
  | moveSource (i i' : Nat)
  /-- `t_j' = t_j`（複製）。 -/
  | copyToken (j j' : Nat)
  /-- `t_j' = std::move(t_j)`。 -/
  | moveToken (j j' : Nat)
  /-- `s_i.request_cancel()`。 -/
  | requestCancel (i : Nat)
deriving DecidableEq, Repr

/-- 移動：移動先に値を写し、移動元を空にする。`i = i'` のときは `shared_ptr` の自己移動代入と
同じく値が残る。 -/
def moveSlot {α : Type} (f : Nat → α) (empty : α) (i i' : Nat) : Nat → α :=
  Function.update (Function.update f i empty) i' (f i)

/-- 一つの操作の後の世界。 -/
def World.apply (w : World) : Op → World
  | .makeSource i =>
      { w with heap := { w.heap with next := w.heap.next + 1 },
               sources := Function.update w.sources i ⟨some w.heap.next⟩ }
  | .token i j => { w with tokens := Function.update w.tokens j (w.sources i).token }
  | .defaultToken j => { w with tokens := Function.update w.tokens j ⟨none⟩ }
  | .copySource i i' => { w with sources := Function.update w.sources i' (w.sources i) }
  | .moveSource i i' => { w with sources := moveSlot w.sources ⟨none⟩ i i' }
  | .copyToken j j' => { w with tokens := Function.update w.tokens j' (w.tokens j) }
  | .moveToken j j' => { w with tokens := moveSlot w.tokens ⟨none⟩ j j' }
  | .requestCancel i =>
      { w with heap := (w.sources i).requestCancel w.heap,
               requested := match (w.sources i).st with
                 | some p => p :: w.requested
                 | none => w.requested }

/-- 何も作られていない世界：状態はなく、変数はすべて空。 -/
def World.init : World :=
  ⟨⟨fun _ => false, 0⟩, fun _ => ⟨none⟩, fun _ => ⟨none⟩, []⟩

/-- 操作の列を順に適用する。 -/
def World.run (w : World) (ops : List Op) : World := ops.foldl World.apply w

/-! ## 基本の補題 -/

@[simp] theorem Heap.requestCancel_flag (h : Heap) (p q : Ptr) :
    (h.requestCancel p).flag q = (q = p || h.flag q) := by
  by_cases hq : q = p <;> simp [Heap.requestCancel, Function.update_apply, hq]

/-- 操作 `op` がトークンの変数 `j` に書き込むか。 -/
def Op.writesToken : Op → Nat → Bool
  | .token _ j, k | .defaultToken j, k | .copyToken _ j, k => k == j
  | .moveToken j j', k => k == j || k == j'
  | _, _ => false

/-- 操作 `op` がソースの変数 `i` に書き込むか。 -/
def Op.writesSource : Op → Nat → Bool
  | .makeSource i, k | .copySource _ i, k => k == i
  | .moveSource i i', k => k == i || k == i'
  | _, _ => false

theorem moveSlot_of_ne {α : Type} {f : Nat → α} {e : α} {i i' k : Nat} (h1 : k ≠ i) (h2 : k ≠ i') :
    moveSlot f e i i' k = f k := by
  simp [moveSlot, Function.update_apply, h1, h2]

/-- 書き込まれないトークンの変数は変わらない。 -/
theorem World.apply_tokens_of_not_writes {w : World} {op : Op} {j : Nat}
    (h : op.writesToken j = false) : (w.apply op).tokens j = w.tokens j := by
  cases op <;> simp_all [Op.writesToken, World.apply, Function.update_apply, moveSlot_of_ne]

/-- 書き込まれないソースの変数は変わらない。 -/
theorem World.apply_sources_of_not_writes {w : World} {op : Op} {i : Nat}
    (h : op.writesSource i = false) : (w.apply op).sources i = w.sources i := by
  cases op <;> simp_all [Op.writesSource, World.apply, Function.update_apply, moveSlot_of_ne]

/-- 状態のフラグは `false` から `true` へしか変わらない。 -/
theorem World.apply_flag_mono {w : World} (op : Op) {p : Ptr} (h : w.heap.flag p = true) :
    (w.apply op).heap.flag p = true := by
  cases op with
  | requestCancel i =>
      simp only [World.apply, CancelSource.requestCancel]
      split <;> simp [h]
  | _ => exact h

/-! ## 不変条件 -/

/-- トークンが指す状態は割り当て済みである。 -/
def CancelToken.Below (n : Nat) (t : CancelToken) : Prop := ∀ p, t.st = some p → p < n

/-- ソースが指す状態は割り当て済みである。 -/
def CancelSource.Below (n : Nat) (s : CancelSource) : Prop := ∀ p, s.st = some p → p < n

theorem CancelToken.Below.succ {n : Nat} {t : CancelToken} (h : t.Below n) : t.Below (n + 1) :=
  fun p hp => Nat.lt_succ_of_lt (h p hp)

theorem CancelSource.Below.succ {n : Nat} {s : CancelSource} (h : s.Below n) : s.Below (n + 1) :=
  fun p hp => Nat.lt_succ_of_lt (h p hp)

theorem forall_update {α : Type} {P : α → Prop} {f : Nat → α} {v : α} (hf : ∀ k, P (f k))
    (hv : P v) (i : Nat) : ∀ k, P (Function.update f i v k) := by
  intro k; by_cases hk : k = i
  · subst hk; simpa using hv
  · simpa [Function.update_apply, hk] using hf k

theorem forall_moveSlot {α : Type} {P : α → Prop} {f : Nat → α} {e : α} (hf : ∀ k, P (f k))
    (he : P e) (i i' : Nat) : ∀ k, P (moveSlot f e i i' k) :=
  forall_update (forall_update hf he i) (hf i) i'

/-- 状態のフラグが立つのは、その状態に `request_cancel` が届いたときに限る。また、変数が指す状態は
すべて割り当て済みである。 -/
structure World.Inv (w : World) : Prop where
  flag_iff : ∀ p, w.heap.flag p = true ↔ p ∈ w.requested
  sources_lt : ∀ i, (w.sources i).Below w.heap.next
  tokens_lt : ∀ j, (w.tokens j).Below w.heap.next

theorem World.inv_init : World.init.Inv where
  flag_iff := by simp [World.init]
  sources_lt := fun _ _ h => nomatch h
  tokens_lt := fun _ _ h => nomatch h

theorem World.Inv.apply {w : World} (hw : w.Inv) (op : Op) : (w.apply op).Inv := by
  have hs := hw.sources_lt
  have ht := hw.tokens_lt
  have hnone : CancelToken.Below w.heap.next ⟨none⟩ := fun _ h => by cases h
  have hnone' : CancelSource.Below w.heap.next ⟨none⟩ := fun _ h => by cases h
  cases op with
  | makeSource i =>
      refine ⟨hw.flag_iff, forall_update (fun k => (hs k).succ) ?_ i, fun j => (ht j).succ⟩
      intro p hp; cases hp; exact Nat.lt_succ_self _
  | token i j => exact ⟨hw.flag_iff, hs, forall_update ht (fun p hp => hs i p hp) j⟩
  | defaultToken j => exact ⟨hw.flag_iff, hs, forall_update ht hnone j⟩
  | copySource i i' => exact ⟨hw.flag_iff, forall_update hs (hs i) i', ht⟩
  | moveSource i i' => exact ⟨hw.flag_iff, forall_moveSlot hs hnone' i i', ht⟩
  | copyToken j j' => exact ⟨hw.flag_iff, hs, forall_update ht (ht j) j'⟩
  | moveToken j j' => exact ⟨hw.flag_iff, hs, forall_moveSlot ht hnone j j'⟩
  | requestCancel i =>
      simp only [World.apply, CancelSource.requestCancel]
      split
      · exact ⟨fun q => by simp [hw.flag_iff q], hs, ht⟩
      · exact hw

theorem World.Inv.run {w : World} (hw : w.Inv) (ops : List Op) : (w.run ops).Inv := by
  induction ops generalizing w with
  | nil => exact hw
  | cons op ops ih => exact ih (hw.apply op)

/-! ## 観測 -/

/-- `t_j.is_cancelled()`。 -/
def World.tokenCancelled (w : World) (j : Nat) : Bool := (w.tokens j).isCancelled w.heap

/-- `s_i.is_cancelled()`。 -/
def World.sourceCancelled (w : World) (i : Nat) : Bool := (w.sources i).isCancelled w.heap

theorem World.Inv.tokenCancelled_iff {w : World} (hw : w.Inv) (j : Nat) :
    w.tokenCancelled j = true ↔ ∃ p, (w.tokens j).st = some p ∧ p ∈ w.requested := by
  unfold World.tokenCancelled CancelToken.isCancelled
  split <;> simp_all [Heap.isCancelled, hw.flag_iff]

theorem World.tokenCancelled_apply {w : World} {op : Op} {j : Nat} (hop : op.writesToken j = false)
    (h : w.tokenCancelled j = true) : (w.apply op).tokenCancelled j = true := by
  unfold World.tokenCancelled CancelToken.isCancelled at *
  rw [World.apply_tokens_of_not_writes hop]
  split at h
  · exact World.apply_flag_mono op h
  · cases h

theorem World.sourceCancelled_apply {w : World} {op : Op} {i : Nat}
    (hop : op.writesSource i = false) (h : w.sourceCancelled i = true) :
    (w.apply op).sourceCancelled i = true := by
  unfold World.sourceCancelled CancelSource.isCancelled at *
  rw [World.apply_sources_of_not_writes hop]
  split at h
  · exact World.apply_flag_mono op h
  · cases h

theorem World.tokenCancelled_run {w : World} {ops : List Op} {j : Nat}
    (hops : ∀ op ∈ ops, op.writesToken j = false) (h : w.tokenCancelled j = true) :
    (w.run ops).tokenCancelled j = true := by
  induction ops generalizing w with
  | nil => exact h
  | cons op ops ih =>
      exact ih (fun o ho => hops o (.tail _ ho)) (World.tokenCancelled_apply (hops op (.head _)) h)

theorem World.sourceCancelled_run {w : World} {ops : List Op} {i : Nat}
    (hops : ∀ op ∈ ops, op.writesSource i = false) (h : w.sourceCancelled i = true) :
    (w.run ops).sourceCancelled i = true := by
  induction ops generalizing w with
  | nil => exact h
  | cons op ops ih =>
      exact ih (fun o ho => hops o (.tail _ ho)) (World.sourceCancelled_apply (hops op (.head _)) h)

/-- `request_cancel` は、そのソースと状態を共有しないトークンの観測を変えない。 -/
theorem World.tokenCancelled_requestCancel {w : World} {i j : Nat}
    (hne : (w.tokens j).st ≠ (w.sources i).st) :
    (w.apply (.requestCancel i)).tokenCancelled j = w.tokenCancelled j := by
  simp only [World.tokenCancelled, World.apply, CancelToken.isCancelled, CancelSource.requestCancel]
  split
  · split <;> simp_all [Heap.isCancelled]
  · rfl

/-- `make_shared` で作った状態は、他のどの変数とも共有されない。 -/
theorem World.Inv.makeSource_fresh {w : World} (hw : w.Inv) (i : Nat) :
    (∀ j, ((w.apply (.makeSource i)).tokens j).st ≠ ((w.apply (.makeSource i)).sources i).st) ∧
    (∀ k ≠ i, ((w.apply (.makeSource i)).sources k).st ≠ ((w.apply (.makeSource i)).sources i).st) := by
  simp only [World.apply, Function.update_same]
  refine ⟨fun j h => ?_, fun k hk h => ?_⟩
  · exact Nat.lt_irrefl _ (hw.tokens_lt j _ h)
  · rw [Function.update_noteq hk] at h
    exact Nat.lt_irrefl _ (hw.sources_lt k _ h)

theorem World.run_tokens_of_not_writes {w : World} {ops : List Op} {j : Nat}
    (hops : ∀ op ∈ ops, op.writesToken j = false) : (w.run ops).tokens j = w.tokens j := by
  induction ops generalizing w with
  | nil => rfl
  | cons op ops ih =>
      exact (ih (fun o ho => hops o (.tail _ ho))).trans
        (World.apply_tokens_of_not_writes (hops op (.head _)))

/-! ## 取り消しの法則 -/

/-- 移動元のソースは状態を手放すので、取り消された後でも `is_cancelled()` が `false` に戻る。 -/
theorem moved_source_reports_uncancelled :
    (World.init.run [.makeSource 0, .requestCancel 0]).sourceCancelled 0 = true ∧
    (World.init.run [.makeSource 0, .requestCancel 0, .moveSource 0 1]).sourceCancelled 0 = false :=
  by decide

/-- どの操作列の後でも、トークンの観測は共有する状態に届いた `request_cancel` だけで決まり、
書き換えられない変数の観測は `true` から戻らず、空のトークンは取り消されず、作ったばかりのソースの
状態はほかのトークンともソースとも共有されず、別の状態を持つソースへの `request_cancel` はトークンの
観測を変えない。 -/
theorem cancellation_laws (ops : List Op) :
    let w := World.init.run ops
    (∀ j, w.tokenCancelled j = true ↔ ∃ p, (w.tokens j).st = some p ∧ p ∈ w.requested) ∧
    (∀ j ops', (∀ op ∈ ops', op.writesToken j = false) →
      w.tokenCancelled j = true → (w.run ops').tokenCancelled j = true) ∧
    (∀ i ops', (∀ op ∈ ops', op.writesSource i = false) →
      w.sourceCancelled i = true → (w.run ops').sourceCancelled i = true) ∧
    (∀ j ops', (w.tokens j).st = none → (∀ op ∈ ops', op.writesToken j = false) →
      (w.run ops').tokenCancelled j = false) ∧
    (∀ i j, (w.sources i).st = none → (w.apply (.token i j)).tokenCancelled j = false) ∧
    (∀ i, (∀ j, ((w.apply (.makeSource i)).tokens j).st ≠ ((w.apply (.makeSource i)).sources i).st) ∧
      ∀ k ≠ i, ((w.apply (.makeSource i)).sources k).st ≠ ((w.apply (.makeSource i)).sources i).st) ∧
    (∀ i j, (w.tokens j).st ≠ (w.sources i).st →
      (w.apply (.requestCancel i)).tokenCancelled j = w.tokenCancelled j) := by
  have hw := World.inv_init.run ops
  refine ⟨hw.tokenCancelled_iff, fun _ _ => World.tokenCancelled_run,
    fun _ _ => World.sourceCancelled_run, fun j ops' hj hops => ?_, fun i j hi => ?_,
    hw.makeSource_fresh, fun _ _ => World.tokenCancelled_requestCancel⟩
  · simp [World.tokenCancelled, World.run_tokens_of_not_writes hops, CancelToken.isCancelled, hj]
  · simp [World.tokenCancelled, World.apply, CancelSource.token, CancelToken.isCancelled, hi]

/-! ## 取り消しと並んで進むスレッド

`thread_pool::submit` の作業者や `asio_awaitable` のように、共有された取り消しの状態を読みながら進む
スレッドを、他のスレッドの取り消し操作との交互の列で動かす。どの列でも、状態のフラグは `true` から
戻らない。
-/

/-- 交互の列の一つ：他のスレッドの取り消し操作か、注目するスレッドの一歩。 -/
inductive Event
  | cancel (op : Op)
  | step
deriving DecidableEq, Repr

/-- 取り消しの世界と、それと並んで進むスレッドの状態。 -/
structure Par (L : Type) where
  cancel : World
  loc : L

namespace Par

variable {L : Type} (step : Heap → L → L)

/-- 一つの出来事の後。スレッドの一歩は、その時点の共有された状態を読む。 -/
def apply (s : Par L) : Event → Par L
  | .cancel op => { s with cancel := s.cancel.apply op }
  | .step => { s with loc := step s.cancel.heap s.loc }

/-- 出来事の列を順に起こす。 -/
def run (s : Par L) (evs : List Event) : Par L := evs.foldl (apply step) s

@[simp] theorem run_nil (s : Par L) : run step s [] = s := rfl

@[simp] theorem run_cons (s : Par L) (e : Event) (evs : List Event) :
    run step s (e :: evs) = run step (apply step s e) evs := rfl

theorem run_append (s : Par L) (evs evs' : List Event) :
    run step s (evs ++ evs') = run step (run step s evs) evs' := List.foldl_append _ _ _ _

/-- どの出来事でも保たれる性質は、列を通して保たれる。 -/
theorem run_inv {I : Par L → Prop} (h : ∀ s e, I s → I (apply step s e)) :
    ∀ (evs : List Event) {s : Par L}, I s → I (run step s evs)
  | [], _, hs => hs
  | e :: evs, _, hs => run_inv h evs (h _ e hs)

/-- スレッドの一歩がどの共有された状態の下でも保つ性質は、列を通して保たれる。 -/
theorem run_loc {P : L → Prop} (h : ∀ heap l, P l → P (step heap l)) (evs : List Event)
    {s : Par L} (hs : P s.loc) : P (run step s evs).loc :=
  run_inv step (I := fun s => P s.loc) (fun s e hs => by cases e <;> [exact hs; exact h _ _ hs]) evs hs

/-- 取り消し操作だけの列は、スレッドの状態を変えない。 -/
theorem run_cancels_loc (s : Par L) (ops : List Op) :
    (run step s (ops.map .cancel)).loc = s.loc := by
  induction ops generalizing s with
  | nil => rfl
  | cons op ops ih => exact ih _

/-- 取り消し操作の列の後でスレッドが一歩進み、その後に列 `evs` が続く。 -/
theorem run_cancels_step (s : Par L) (ops : List Op) (evs : List Event) :
    run step s (ops.map .cancel ++ .step :: evs) =
      run step (apply step (run step s (ops.map .cancel)) .step) evs := by
  rw [run_append, run_cons]

/-- 一歩ごとに高々一つ減る量は、列の一歩の数だけ減る。 -/
theorem run_measure {m : L → Nat} (hm : ∀ heap l, m (step heap l) ≤ m l - 1) :
    ∀ (evs : List Event) (s : Par L), m (run step s evs).loc ≤ m s.loc - evs.count .step
  | [], _ => Nat.le_refl _
  | .cancel _ :: evs, s => by simpa using run_measure hm evs _
  | .step :: evs, s => by
      have := run_measure hm evs (apply step s .step)
      simp only [apply, run_cons, List.count_cons_self] at this ⊢
      have := hm s.cancel.heap s.loc
      omega

/-- 一歩ごとに減る量がはじめ列の一歩の数以下なら、列の後では `0` である。 -/
theorem run_measure_zero {m : L → Nat} (hm : ∀ heap l, m (step heap l) ≤ m l - 1)
    {evs : List Event} {s : Par L} (h : m s.loc ≤ evs.count .step) : m (run step s evs).loc = 0 := by
  have := run_measure step hm evs s
  omega

end Par

/-- 状態を一つ持つトークンの観測は、どの操作の後も `true` から戻らない。 -/
theorem CancelToken.isCancelled_apply {t : CancelToken} {w : World} (op : Op)
    (h : t.isCancelled w.heap = true) : t.isCancelled (w.apply op).heap = true := by
  unfold CancelToken.isCancelled Heap.isCancelled at *
  split at h
  · exact World.apply_flag_mono op h
  · cases h

end Cnerium.Cancel
