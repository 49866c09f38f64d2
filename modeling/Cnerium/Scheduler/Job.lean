import Cnerium.Scheduler.Basic
import Mathlib.Data.List.Nodup

/-!
# ジョブの持ち主

`task.hpp` の `scheduler::job` と、その中の `job::fn_holder` を写す。`fn_holder` は `new` した
`fn_impl<D>` を一つだけ指すポインタ `ptr` を持ち、移動すると元は `nullptr` になり、`reset()` と
デストラクタが `delete` する。移動代入は `this != &o` のときだけ `reset()` してから受け取る。

スケジューラの側では、`post` がジョブを作ってキューの後ろに置き
（`q_.emplace_back(job{std::forward<Fn>(fn)})`）、`run()` の一回の繰り返しが先頭のジョブをローカルの
`job j` へ移動代入して取り出し、`if (j.fn) j.fn();` と呼び、繰り返しの終わりに `j` のデストラクタが
`delete` する。ジョブが例外を投げても `j` は巻き戻しで壊れるので、オブジェクトへの効果は同じである。
ジョブの中から積むジョブは、その繰り返しの後の `post` として並べる（触れるオブジェクトが違うので、
順は結果を変えない）。`~scheduler` はキューに残ったジョブを壊す（`teardown`）。

`new` したオブジェクトは番号で表し、`delete` 済みかと、`call()` された回数を記録する。`delete` 済みの
オブジェクトの `delete` と `call()` は未定義の動作で、`Fault` を返す。
-/

namespace Cnerium.Core.Job

/-- `new fn_impl<D>(...)` が返したポインタ。 -/
abbrev Ptr := Nat

/-- `fn_holder::ptr`。空は `nullptr`。 -/
abbrev Holder := Option Ptr

/-- 未定義の動作。 -/
inductive Fault
  /-- `delete` 済みのオブジェクトの `delete`。 -/
  | doubleDelete (p : Ptr)
  /-- `delete` 済みのオブジェクトの `call()`。 -/
  | callDeleted (p : Ptr)
deriving DecidableEq, Repr

/-- `new` で作ったオブジェクト：作った数、`delete` したもの、`call()` した回数。 -/
structure Heap where
  size : Nat
  deleted : Ptr → Bool
  calls : Ptr → Nat

namespace Heap

/-- `new fn_impl<D>(D(std::forward<Fn>(f)))`：番号 `size` の新しいオブジェクト。 -/
def alloc (h : Heap) : Heap :=
  ⟨h.size + 1, Function.update h.deleted h.size false, Function.update h.calls h.size 0⟩

/-- `fn_holder::reset` の `delete ptr;`。`nullptr` なら何もしない。 -/
def delete (h : Heap) : Holder → Except Fault Heap
  | none => .ok h
  | some p =>
      if h.deleted p then .error (.doubleDelete p)
      else .ok { h with deleted := Function.update h.deleted p true }

/-- `fn_holder::operator()`：`if (ptr) ptr->call();` -/
def call (h : Heap) : Holder → Except Fault Heap
  | none => .ok h
  | some p =>
      if h.deleted p then .error (.callDeleted p)
      else .ok { h with calls := Function.update h.calls p (h.calls p + 1) }

@[simp] theorem alloc_size (h : Heap) : h.alloc.size = h.size + 1 := rfl
@[simp] theorem alloc_deleted_self (h : Heap) : h.alloc.deleted h.size = false := by simp [alloc]
@[simp] theorem alloc_calls_self (h : Heap) : h.alloc.calls h.size = 0 := by simp [alloc]
theorem alloc_deleted_lt {h : Heap} {p : Ptr} (hp : p < h.size) : h.alloc.deleted p = h.deleted p := by
  simp [alloc, Nat.ne_of_lt hp]
theorem alloc_calls_lt {h : Heap} {p : Ptr} (hp : p < h.size) : h.alloc.calls p = h.calls p := by
  simp [alloc, Nat.ne_of_lt hp]
@[simp] theorem delete_none (h : Heap) : h.delete none = .ok h := rfl
@[simp] theorem call_none (h : Heap) : h.call none = .ok h := rfl

theorem delete_some {h : Heap} {p : Ptr} (hp : h.deleted p = false) :
    h.delete (some p) = .ok { h with deleted := Function.update h.deleted p true } := by
  simp [delete, hp]

theorem call_some {h : Heap} {p : Ptr} (hp : h.deleted p = false) :
    h.call (some p) = .ok { h with calls := Function.update h.calls p (h.calls p + 1) } := by
  simp [call, hp]

/-- `h'` は `h` より後の表：作った数は減らず、`delete` 済みのオブジェクトはそのままで、呼ばれた回数も
変わらない。 -/
def Extends (h h' : Heap) : Prop :=
  h.size ≤ h'.size ∧ ∀ p < h.size, h.deleted p = true → h'.deleted p = true ∧ h'.calls p = h.calls p

theorem Extends.refl (h : Heap) : h.Extends h := ⟨le_rfl, fun _ _ hp => ⟨hp, rfl⟩⟩

theorem Extends.trans {h₁ h₂ h₃ : Heap} (h₁₂ : h₁.Extends h₂) (h₂₃ : h₂.Extends h₃) : h₁.Extends h₃ :=
  ⟨h₁₂.1.trans h₂₃.1, fun p hp hd =>
    have h₂' := h₁₂.2 p hp hd
    have h₃' := h₂₃.2 p (lt_of_lt_of_le hp h₁₂.1) h₂'.1
    ⟨h₃'.1, h₃'.2.trans h₂'.2⟩⟩

end Heap

/-- `fn_holder` の変数と、スケジューラ。キューのジョブはその `fn.ptr` で表す。 -/
structure World where
  heap : Heap
  slots : Nat → Holder
  sched : Scheduler Holder

/-- 一歩。 -/
inductive Op
  /-- `h_i = fn_holder(f);`：一時オブジェクトを作り、そこから移動代入する。 -/
  | make (i : Nat)
  /-- `fn_holder h_j(std::move(h_i));` -/
  | moveConstruct (i j : Nat)
  /-- `h_j = std::move(h_i);`（`i = j` の自己代入も含む）。 -/
  | moveAssign (i j : Nat)
  /-- `h_i.reset();` か `h_i.~fn_holder()`。 -/
  | reset (i : Nat)
  /-- `h_i();` -/
  | call (i : Nat)
  /-- `scheduler::post(fn)`。 -/
  | post
  /-- `run()` の一回の繰り返し。 -/
  | dispatch
  /-- `~scheduler`：キューに残ったジョブのデストラクタ。 -/
  | teardown
deriving DecidableEq, Repr

namespace World

/-- `fn_holder::reset()`：`delete ptr; ptr = nullptr;` -/
def reset (w : World) (i : Nat) : Except Fault World :=
  (w.heap.delete (w.slots i)).map fun h => { w with heap := h, slots := Function.update w.slots i none }

/-- 一歩。 -/
def step (w : World) : Op → Except Fault World
  | .make i =>
      ({ w with heap := w.heap.alloc }.reset i).map fun w' : World =>
        { w' with slots := Function.update w'.slots i (some w.heap.size) }
  | .moveConstruct i j => .ok { w with slots := Function.update (Function.update w.slots j (w.slots i)) i none }
  | .moveAssign i j =>
      if j = i then .ok w
      else (w.reset j).map fun w' =>
        { w' with slots := Function.update (Function.update w'.slots j (w'.slots i)) i none }
  | .reset i => w.reset i
  | .call i => (w.heap.call (w.slots i)).map fun h => { w with heap := h }
  | .post => .ok { w with heap := w.heap.alloc, sched := w.sched.post (some w.heap.size) }
  | .dispatch =>
      match w.sched.check with
      | .pop j s => ((w.heap.call j).bind fun h => h.delete j).map fun h => { w with heap := h, sched := s }
      | _ => .ok w
  | .teardown =>
      (w.sched.q.foldlM Heap.delete w.heap).map fun h => { w with heap := h, sched := { w.sched with q := [] } }

/-- 何もない世界。 -/
def init : World where
  heap := ⟨0, fun _ => false, fun _ => 0⟩
  slots _ := none
  sched := Scheduler.init

/-- 使い方の決まり：移動構築の先は新しい変数である。 -/
def Allowed (w : World) : Op → Prop
  | .moveConstruct i j => i ≠ j ∧ w.slots j = none
  | _ => True

/-- 操作の列を順に行う。 -/
def run (w : World) : List Op → Except Fault World
  | [] => .ok w
  | op :: ops => (w.step op).bind fun w' => w'.run ops

/-- 届く世界の不変条件：変数が指すオブジェクトは `delete` されておらず、二つの変数が同じものを
指さない。キューのジョブはどれも空でなく、`delete` されておらずまだ呼ばれていないオブジェクトを、
変数と重ならずに一つずつ指す。`delete` されていないオブジェクトには持ち主がいる。 -/
structure Inv (w : World) : Prop where
  slot_live : ∀ i p, w.slots i = some p → p < w.heap.size ∧ w.heap.deleted p = false
  slot_unique : ∀ i i' p, w.slots i = some p → w.slots i' = some p → i = i'
  queue_live : ∀ t ∈ w.sched.q, ∃ p, t = some p ∧ p < w.heap.size ∧ w.heap.deleted p = false ∧
    w.heap.calls p = 0
  nodup : w.sched.q.Nodup
  disjoint : ∀ i p, w.slots i = some p → some p ∉ w.sched.q
  owned : ∀ p < w.heap.size, w.heap.deleted p = false → (∃ i, w.slots i = some p) ∨ some p ∈ w.sched.q

theorem inv_init : init.Inv where
  slot_live := by simp [init]
  slot_unique := by simp [init]
  queue_live := by simp [init, Scheduler.init]
  nodup := by simp [init, Scheduler.init]
  disjoint := by simp [init]
  owned := by simp [init]

theorem update_none_eq_some {f : Nat → Holder} {i k : Nat} {p : Ptr} :
    Function.update f i none k = some p ↔ k ≠ i ∧ f k = some p := by
  rcases eq_or_ne k i with rfl | hk <;> simp [*]

/-- `reset()` は変数 `i` を空にし、指していたオブジェクトだけを `delete` する。 -/
theorem Inv.reset {w : World} (hi : w.Inv) (i : Nat) :
    ∃ w', w.reset i = .ok w' ∧ w'.Inv ∧ w'.slots = Function.update w.slots i none ∧
      w'.sched = w.sched ∧ w'.heap.size = w.heap.size ∧ w'.heap.calls = w.heap.calls := by
  cases hs : w.slots i with
  | none =>
      have hslots : Function.update w.slots i none = w.slots := by rw [← hs]; exact Function.update_eq_self i _
      refine ⟨{ w with slots := Function.update w.slots i none }, by simp [World.reset, hs, Except.map],
        ?_, rfl, rfl, rfl, rfl⟩
      simpa [hslots] using hi
  | some p =>
      obtain ⟨hlt, hd⟩ := hi.slot_live i p hs
      have hnq := hi.disjoint i p hs
      have hne : ∀ k r, w.slots k = some r → k ≠ i → r ≠ p := by
        rintro k r hk hki rfl; exact hki (hi.slot_unique k i r hk hs)
      refine ⟨⟨{ w.heap with deleted := Function.update w.heap.deleted p true },
        Function.update w.slots i none, w.sched⟩,
        by simp [World.reset, hs, Heap.delete_some hd, Except.map], ?_, rfl, rfl, rfl, rfl⟩
      constructor
      · intro k r hk
        rw [update_none_eq_some] at hk
        simpa [hne k r hk.2 hk.1] using hi.slot_live k r hk.2
      · intro k k' r hk hk'
        rw [update_none_eq_some] at hk hk'
        exact hi.slot_unique k k' r hk.2 hk'.2
      · intro t ht
        obtain ⟨r, rfl, h⟩ := hi.queue_live t ht
        have hrp : r ≠ p := by rintro rfl; exact hnq ht
        simpa [hrp] using h
      · exact hi.nodup
      · intro k r hk
        rw [update_none_eq_some] at hk
        exact hi.disjoint k r hk.2
      · intro r hr hdr
        have hrp : r ≠ p := by rintro rfl; simp at hdr
        rcases hi.owned r hr (by simpa [hrp] using hdr) with ⟨k, hk⟩ | hq
        · have hki : k ≠ i := by rintro rfl; rw [hs] at hk; exact hrp (Option.some.inj hk).symm
          exact .inl ⟨k, by simp [hki, hk]⟩
        · exact .inr hq

/-- 空の変数 `j` への移動：`j` が `i` の指すものを受け取り、`i` が空になる。 -/
theorem Inv.move {w : World} (hi : w.Inv) {i j : Nat} (hij : i ≠ j) (hj : w.slots j = none) :
    ({ w with slots := Function.update (Function.update w.slots j (w.slots i)) i none } : World).Inv := by
  have hslot : ∀ k r, Function.update (Function.update w.slots j (w.slots i)) i none k = some r ↔
      k ≠ i ∧ ((k = j ∧ w.slots i = some r) ∨ (k ≠ j ∧ w.slots k = some r)) := by
    intro k r; by_cases hk : k = j <;> simp [hk, update_none_eq_some, Function.update_apply]
  refine ⟨fun k r hk => ?_, fun k k' r hk hk' => ?_, hi.queue_live, hi.nodup, fun k r hk => ?_,
    fun r hr hdr => ?_⟩
  · rcases ((hslot k r).1 hk).2 with ⟨-, h⟩ | ⟨-, h⟩ <;> exact hi.slot_live _ r h
  · obtain ⟨hki, hk⟩ := (hslot k r).1 hk
    obtain ⟨hk'i, hk'⟩ := (hslot k' r).1 hk'
    rcases hk with ⟨rfl, h⟩ | ⟨hkj, h⟩ <;> rcases hk' with ⟨rfl, h'⟩ | ⟨hk'j, h'⟩
    · rfl
    · exact absurd (hi.slot_unique _ _ r h h') (Ne.symm hk'i)
    · exact absurd (hi.slot_unique _ _ r h h') hki
    · exact hi.slot_unique _ _ r h h'
  · rcases ((hslot k r).1 hk).2 with ⟨-, h⟩ | ⟨-, h⟩ <;> exact hi.disjoint _ r h
  · rcases hi.owned r hr hdr with ⟨k, hk⟩ | hq
    · refine .inl ?_
      by_cases hki : k = i
      · subst hki; exact ⟨j, (hslot j r).2 ⟨Ne.symm hij, .inl ⟨rfl, hk⟩⟩⟩
      · have hkj : k ≠ j := by rintro rfl; rw [hj] at hk; cases hk
        exact ⟨k, (hslot k r).2 ⟨hki, .inr ⟨hkj, hk⟩⟩⟩
    · exact .inr hq

/-- 新しいオブジェクトを空の変数 `i` が受け取る。 -/
theorem Inv.put_new {w : World} (hi : w.Inv) {i : Nat} (hj : w.slots i = none) :
    ({ w with heap := w.heap.alloc, slots := Function.update w.slots i (some w.heap.size) } : World).Inv := by
  have hslot : ∀ k r, Function.update w.slots i (some w.heap.size) k = some r ↔
      (k = i ∧ r = w.heap.size) ∨ (k ≠ i ∧ w.slots k = some r) := by
    intro k r; by_cases hk : k = i
    · subst hk; simp [eq_comm]
    · simp [hk]
  have hqlt : ∀ r, some r ∈ w.sched.q → r < w.heap.size := fun r ht => by
    obtain ⟨r', hr, hlt, -⟩ := hi.queue_live _ ht; cases hr; exact hlt
  refine ⟨fun k r hk => ?_, fun k k' r hk hk' => ?_, fun t ht => ?_, hi.nodup, fun k r hk => ?_,
    fun r hr hdr => ?_⟩
  · rcases (hslot k r).1 hk with ⟨-, rfl⟩ | ⟨-, h⟩
    · simp
    · obtain ⟨hlt, hd⟩ := hi.slot_live k r h
      exact ⟨Nat.lt_succ_of_lt hlt, by rw [Heap.alloc_deleted_lt hlt, hd]⟩
  · have hnew : ∀ k, w.slots k ≠ some w.heap.size := fun k h => lt_irrefl _ (hi.slot_live k _ h).1
    rcases (hslot k r).1 hk with ⟨hki, hr⟩ | ⟨hki, h⟩ <;>
      rcases (hslot k' r).1 hk' with ⟨hk'i, hr'⟩ | ⟨hk'i, h'⟩
    · exact hki.trans hk'i.symm
    · exact absurd (hr ▸ h') (hnew k')
    · exact absurd (hr' ▸ h) (hnew k)
    · exact hi.slot_unique _ _ r h h'
  · obtain ⟨r, rfl, hlt, hd, hc⟩ := hi.queue_live t ht
    exact ⟨r, rfl, Nat.lt_succ_of_lt hlt, by rw [Heap.alloc_deleted_lt hlt, hd],
      by rw [Heap.alloc_calls_lt hlt, hc]⟩
  · rcases (hslot k r).1 hk with ⟨-, rfl⟩ | ⟨-, h⟩
    · exact fun ht => lt_irrefl _ (hqlt _ ht)
    · exact hi.disjoint k r h
  · rcases Nat.lt_succ_iff_lt_or_eq.1 hr with hr | rfl
    · rcases hi.owned r hr (by rwa [Heap.alloc_deleted_lt hr] at hdr) with ⟨k, hk⟩ | h
      · have hki : k ≠ i := by rintro rfl; rw [hj] at hk; cases hk
        exact .inl ⟨k, (hslot k r).2 (.inr ⟨hki, hk⟩)⟩
      · exact .inr h
    · exact .inl ⟨i, (hslot i _).2 (.inl ⟨rfl, rfl⟩)⟩

/-- `post`：新しいオブジェクトを持つジョブをキューの後ろに置く。 -/
theorem Inv.post {w : World} (hi : w.Inv) :
    ({ w with heap := w.heap.alloc, sched := w.sched.post (some w.heap.size) } : World).Inv := by
  have hnq : some w.heap.size ∉ w.sched.q := fun ht => by
    obtain ⟨r, hr, hlt, -⟩ := hi.queue_live _ ht; cases hr; exact lt_irrefl _ hlt
  refine ⟨fun k r hk => ?_, hi.slot_unique, fun t ht => ?_, ?_, fun k r hk => ?_, fun r hr hdr => ?_⟩
  · obtain ⟨hlt, hd⟩ := hi.slot_live k r hk
    exact ⟨Nat.lt_succ_of_lt hlt, by rw [Heap.alloc_deleted_lt hlt, hd]⟩
  · rcases List.mem_append.1 ht with ht | ht
    · obtain ⟨r, rfl, hlt, hd, hc⟩ := hi.queue_live t ht
      exact ⟨r, rfl, Nat.lt_succ_of_lt hlt, by rw [Heap.alloc_deleted_lt hlt, hd],
        by rw [Heap.alloc_calls_lt hlt, hc]⟩
    · rw [List.mem_singleton] at ht; subst ht; exact ⟨_, rfl, by simp, by simp, by simp⟩
  · exact List.nodup_append.2 ⟨hi.nodup, List.nodup_singleton _,
      List.disjoint_singleton.2 hnq⟩
  · have hlt := (hi.slot_live k r hk).1
    intro ht
    rcases List.mem_append.1 ht with ht | ht
    · exact hi.disjoint k r hk ht
    · rw [List.mem_singleton, Option.some.injEq] at ht; exact lt_irrefl _ (ht ▸ hlt)
  · rcases Nat.lt_succ_iff_lt_or_eq.1 hr with hr | rfl
    · rcases hi.owned r hr (by rwa [Heap.alloc_deleted_lt hr] at hdr) with h | h
      · exact .inl h
      · exact .inr (List.mem_append_left _ h)
    · exact .inr (List.mem_append_right _ (List.mem_singleton_self _))

/-- `h_i = fn_holder(f)` は、先に `h_i` を `reset()` してから新しいオブジェクトを受け取るのと同じ：
一時オブジェクトの `new` と古いオブジェクトの `delete` は別のオブジェクトに触れる。 -/
theorem make_eq {w : World} {i : Nat} (hlt : ∀ p, w.slots i = some p → p < w.heap.size) :
    w.step (.make i) = (w.reset i).map fun w' =>
      { w' with heap := w'.heap.alloc, slots := Function.update w'.slots i (some w.heap.size) } := by
  cases hs : w.slots i with
  | none => simp [step, World.reset, hs, Except.map]
  | some p =>
      have hp := hlt p hs
      cases hd : w.heap.deleted p
      · simp only [step, World.reset, hs, Heap.delete_some hd,
          Heap.delete_some (show w.heap.alloc.deleted p = false by rw [Heap.alloc_deleted_lt hp, hd]),
          Except.map, Function.update_idem]
        congr 3
        simp only [Heap.alloc]
        rw [Function.update_comm (Nat.ne_of_lt hp)]
      · simp [step, World.reset, hs, Heap.delete, hd, Heap.alloc_deleted_lt hp, Except.map]

theorem Inv.make {w : World} (hi : w.Inv) (i : Nat) : ∃ w', w.step (.make i) = .ok w' ∧ w'.Inv := by
  obtain ⟨w₁, hr, hi₁, hsl, -, hsize, -⟩ := hi.reset i
  rw [make_eq fun p h => (hi.slot_live i p h).1, hr, ← hsize]
  exact ⟨_, rfl, hi₁.put_new (by simp [hsl])⟩

/-- 変数 `i` のオブジェクトを呼ぶ。キューのジョブのオブジェクトは呼ばれない。 -/
theorem Inv.call {w : World} (hi : w.Inv) (i : Nat) :
    ∃ w', w.step (.call i) = .ok w' ∧ w'.Inv := by
  cases hs : w.slots i with
  | none => exact ⟨w, by simp [step, hs, Except.map], hi⟩
  | some p =>
      obtain ⟨-, hd⟩ := hi.slot_live i p hs
      have hnq := hi.disjoint i p hs
      refine ⟨⟨⟨w.heap.size, w.heap.deleted, Function.update w.heap.calls p (w.heap.calls p + 1)⟩,
        w.slots, w.sched⟩, by simp [step, hs, Heap.call_some hd, Except.map], hi.slot_live, hi.slot_unique,
        fun t ht => ?_, hi.nodup, hi.disjoint, hi.owned⟩
      obtain ⟨r, rfl, h⟩ := hi.queue_live t ht
      have hrp : r ≠ p := by rintro rfl; exact hnq ht
      simpa [hrp] using h

/-- `run()` の一回の繰り返し：先頭のジョブのオブジェクトを一度呼び、`delete` する。 -/
theorem Inv.dispatch_pop {w : World} (hi : w.Inv) {p : Ptr} {q : List Holder}
    (hq : w.sched.q = some p :: q) :
    w.step .dispatch = .ok ⟨⟨w.heap.size, Function.update w.heap.deleted p true,
      Function.update w.heap.calls p (w.heap.calls p + 1)⟩, w.slots, { w.sched with q := q }⟩ ∧
    (⟨⟨w.heap.size, Function.update w.heap.deleted p true,
      Function.update w.heap.calls p (w.heap.calls p + 1)⟩, w.slots, { w.sched with q := q }⟩ : World).Inv := by
  obtain ⟨_, hp, hlt, hd, -⟩ := hi.queue_live (some p) (by simp [hq])
  cases hp
  have hnd := hi.nodup
  rw [hq, List.nodup_cons] at hnd
  refine ⟨by simp [step, Scheduler.check_cons _ _ _ hq, Heap.call_some hd, Heap.delete, hd,
    Except.bind, Except.map], fun k r hk => ?_, hi.slot_unique, fun t ht => ?_, hnd.2,
    fun k r hk ht => hi.disjoint k r hk (by simp [hq, ht]), fun r hr hdr => ?_⟩
  · have hrp : r ≠ p := by rintro rfl; exact hi.disjoint k _ hk (by simp [hq])
    simpa [hrp] using hi.slot_live k r hk
  · obtain ⟨r, rfl, h⟩ := hi.queue_live t (by simp [hq, ht])
    have hrp : r ≠ p := by rintro rfl; exact hnd.1 ht
    simpa [hrp] using h
  · have hrp : r ≠ p := by rintro rfl; simp at hdr
    rcases hi.owned r hr (by simpa [hrp] using hdr) with h | h
    · exact .inl h
    · rw [hq, List.mem_cons] at h
      exact .inr (h.resolve_left (by simpa using hrp))

/-- `~scheduler`：キューのジョブのオブジェクトを一つずつ `delete` する。 -/
theorem deleteAll_spec {h : Heap} {l : List Holder} (hl : ∀ t ∈ l, ∃ p, t = some p ∧ h.deleted p = false)
    (hnd : l.Nodup) :
    l.foldlM Heap.delete h = .ok { h with deleted := fun r => h.deleted r || decide (some r ∈ l) } := by
  induction l generalizing h with
  | nil => simp [List.foldlM]; rfl
  | cons t l ih =>
      obtain ⟨p, rfl, hd⟩ := hl _ (List.mem_cons_self _ _)
      rw [List.nodup_cons] at hnd
      have hl' : ∀ t ∈ l, ∃ r, t = some r ∧
          ({ h with deleted := Function.update h.deleted p true } : Heap).deleted r = false := by
        intro t ht
        obtain ⟨r, rfl, hr⟩ := hl t (List.mem_cons_of_mem _ ht)
        have hrp : r ≠ p := by rintro rfl; exact hnd.1 ht
        exact ⟨r, rfl, by simpa [hrp] using hr⟩
      rw [List.foldlM_cons, Heap.delete_some hd]
      refine (ih hl' hnd.2).trans ?_
      congr 2; funext r
      rcases eq_or_ne r p with rfl | hrp <;> simp [*]

theorem Inv.teardown {w : World} (hi : w.Inv) :
    ∃ w', w.step .teardown = .ok w' ∧ w'.Inv ∧ w'.heap.size = w.heap.size ∧
      ∀ p, w'.heap.deleted p = (w.heap.deleted p || decide (some p ∈ w.sched.q)) := by
  have hl : ∀ t ∈ w.sched.q, ∃ p, t = some p ∧ w.heap.deleted p = false := fun t ht => by
    obtain ⟨p, rfl, -, hd, -⟩ := hi.queue_live t ht; exact ⟨p, rfl, hd⟩
  refine ⟨⟨{ w.heap with deleted := fun r => w.heap.deleted r || decide (some r ∈ w.sched.q) }, w.slots,
    { w.sched with q := [] }⟩, by simp [step, deleteAll_spec hl hi.nodup, Except.map],
    ⟨fun k r hk => ?_, hi.slot_unique,
    by simp, by simp, by simp, fun r hr hdr => ?_⟩, rfl, fun _ => rfl⟩
  · simpa [hi.disjoint k r hk] using hi.slot_live k r hk
  · simp only [Bool.or_eq_false_iff, decide_eq_false_iff_not] at hdr
    exact .inl ((hi.owned r hr hdr.1).resolve_right hdr.2)

/-- 決まりを守る一歩は未定義の動作に当たらず、不変条件を保つ。 -/
theorem Inv.step {w : World} (hi : w.Inv) {op : Op} (ha : w.Allowed op) :
    ∃ w', w.step op = .ok w' ∧ w'.Inv := by
  cases op with
  | make i => exact hi.make i
  | moveConstruct i j => exact ⟨_, rfl, hi.move ha.1 ha.2⟩
  | moveAssign i j =>
      by_cases hji : j = i
      · exact ⟨w, by simp [World.step, hji], hi⟩
      · obtain ⟨w₁, hr, hi₁, hsl, -⟩ := hi.reset j
        exact ⟨_, by simp [World.step, hji, hr, Except.map], hi₁.move (Ne.symm hji) (by simp [hsl])⟩
  | reset i =>
      obtain ⟨w₁, hr, hi₁, -⟩ := hi.reset i
      exact ⟨w₁, hr, hi₁⟩
  | call i => exact hi.call i
  | post => exact ⟨_, rfl, hi.post⟩
  | dispatch =>
      rcases w.sched.check_cases with ⟨t, q, hq, -⟩ | ⟨-, -, hc⟩ | ⟨-, -, hc⟩
      · obtain ⟨p, rfl, -⟩ := hi.queue_live t (by simp [hq])
        exact ⟨_, (hi.dispatch_pop hq).1, (hi.dispatch_pop hq).2⟩
      all_goals exact ⟨w, by simp [World.step, hc], hi⟩
  | teardown =>
      obtain ⟨w', h, hi', -⟩ := hi.teardown
      exact ⟨w', h, hi'⟩

end World

open World

/-- 決まりを守る一歩の列で届く世界。 -/
inductive Reachable : World → Prop
  | init : Reachable World.init
  | step {w w' : World} : Reachable w → (op : Op) → w.Allowed op → w.step op = .ok w' → Reachable w'

theorem Reachable.inv {w : World} (hw : Reachable w) : w.Inv := by
  induction hw with
  | init => exact inv_init
  | step _ _ ha hs ih =>
      obtain ⟨w', h, hi⟩ := ih.step ha
      rw [hs] at h; cases h; exact hi

/-- 決まりを守るどの操作の列の後でも、次の一歩は未定義の動作（`delete` 済みのオブジェクトの `delete`
や `call()`）に当たらない。`delete` されていないオブジェクトは、持ち主（`fn_holder` の変数か
キューのジョブ）がいるものにちょうど限られ、二つの持ち主が同じオブジェクトを指すことはない。 -/
theorem fn_holder_owns_exclusively {w : World} (hw : Reachable w) :
    (∀ op, w.Allowed op → ∃ w', w.step op = .ok w') ∧
    (∀ p, (p < w.heap.size ∧ w.heap.deleted p = false) ↔
      ((∃ i, w.slots i = some p) ∨ some p ∈ w.sched.q)) ∧
    (∀ i i' p, w.slots i = some p → w.slots i' = some p → i = i') ∧
    w.sched.q.Nodup ∧ (∀ i p, w.slots i = some p → some p ∉ w.sched.q) := by
  have hi := hw.inv
  refine ⟨fun op ha => (hi.step ha).imp fun _ h => h.1, fun p => ⟨fun h => hi.owned p h.1 h.2, ?_⟩,
    hi.slot_unique, hi.nodup, hi.disjoint⟩
  rintro (⟨i, h⟩ | h)
  · exact hi.slot_live i p h
  · obtain ⟨_, hp, hlt, hd, -⟩ := hi.queue_live _ h
    cases hp; exact ⟨hlt, hd⟩

/-- 変数 `0` に作って `1` へ移し、ジョブを一つ積んだところ。 -/
theorem fn_holder_owns_exclusively_moved :
    let w := (World.init.run [.make 0, .moveConstruct 0 1, .post]).toOption.getD .init
    (∀ op, w.Allowed op → ∃ w', w.step op = .ok w') ∧
    (∀ p, (p < w.heap.size ∧ w.heap.deleted p = false) ↔
      ((∃ i, w.slots i = some p) ∨ some p ∈ w.sched.q)) ∧
    (∀ i i' p, w.slots i = some p → w.slots i' = some p → i = i') ∧
    w.sched.q.Nodup ∧ (∀ i p, w.slots i = some p → some p ∉ w.sched.q) :=
  fn_holder_owns_exclusively
    (.step (.step (.step .init (.make 0) trivial rfl) (.moveConstruct 0 1) ⟨by decide, rfl⟩ rfl) .post trivial rfl)

/-- どの `fn_holder` の変数も空になった後（デストラクタか `reset()`）、`~scheduler` がキューに残った
ジョブを壊すと、`new` したオブジェクトはどれも `delete` されている。`delete` は未定義の動作に
当たらないので、どれもちょうど一度である。 -/
theorem teardown_deletes_every_callable {w : World} (hw : Reachable w) (hs : ∀ i, w.slots i = none) :
    ∃ w', w.step .teardown = .ok w' ∧ ∀ p < w'.heap.size, w'.heap.deleted p = true := by
  obtain ⟨w', h, -, hsize, hdel⟩ := hw.inv.teardown
  refine ⟨w', h, fun p hp => ?_⟩
  rw [hdel]
  cases hd : w.heap.deleted p
  · rcases hw.inv.owned p (hsize ▸ hp) hd with ⟨i, hi⟩ | hq
    · simp [hs i] at hi
    · simp [hq]
  · rfl

/-- 変数 `0` に作ってジョブを二つ積み、一つを実行して、変数を空にしたところ。 -/
theorem teardown_deletes_every_callable_drained :
    let w := (World.init.run [.make 0, .post, .post, .dispatch, .reset 0]).toOption.getD .init
    (∀ i, w.slots i = none) ∧
      ∃ w', w.step .teardown = .ok w' ∧ ∀ p < w'.heap.size, w'.heap.deleted p = true := by
  intro w
  have hw : Reachable w := .step (.step (.step (.step (.step .init (.make 0) trivial rfl) .post trivial rfl)
    .post trivial rfl) .dispatch trivial rfl) (.reset 0) trivial rfl
  have hslots : w.slots =
      Function.update (Function.update (Function.update (fun _ => none) 0 none) 0 (some 0)) 0 none := rfl
  have hs : ∀ i, w.slots i = none := by
    intro i; rw [hslots]; simp only [Function.update_apply]; split_ifs <;> rfl
  exact ⟨hs, teardown_deletes_every_callable hw hs⟩

end Cnerium.Core.Job
