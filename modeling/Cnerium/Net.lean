import Cnerium.Cancel

/-!
# ネットワークの awaitable

`scheduler.cpp` の `net::detail::asio_result` と `asio_awaitable<Starter, T>` を写す。`await_suspend` は
ループのスレッドで `ct` を検査して `starter` を呼び、完了ハンドラはネットワークのスレッドで結果を書いて
`h` を `post` する。その間のどこにでも他のスレッドの取り消し操作が割り込み（`Cnerium.Cancel.Par`）、
`await_resume` は再開した時点のトークンの観測を読む。

`starter` は完了の約束を守るものとする：例外を投げてハンドラを呼ばないか、戻ってからハンドラを
ちょうど一度呼ぶ。成功のときハンドラの引数から作る `T` の値は投げずに作れる。

完了ハンドラの `res.value.emplace(static_cast<T>(args...));` は、`static_cast` の一つの式の位置に
パック展開を置くので不適格で、このままでは翻訳単位がコンパイルされない。ここで写すのは、省略記号を
`static_cast` の外へ出した `res.value.emplace(static_cast<T>(args)...);` で、成功の完了が渡した一つの値を
そのまま `value` に入れる。
-/

namespace Cnerium.Net

open Cancel

/-- `asio_result<T>`。`ec` は `std::error_code` の `value()` で、`0` が成功。`void` では `value` を
使わない。 -/
structure AsioResult (T : Type) where
  ec : Nat
  value : Option T

/-- `asio_awaitable` のうち、`await_suspend`、完了ハンドラ、`await_resume` が読み書きするもの。 -/
structure AsioAwaitable (X T : Type) where
  ct : CancelToken
  res : AsioResult T
  ex : Option X

/-- 完了の約束を守る `starter` の振る舞い。 -/
inductive Starter (X T : Type)
  /-- ハンドラを呼ばずに例外 `e` を投げる。 -/
  | throws (e : X)
  /-- 戻った後、ハンドラを一度 `ec` と（成功なら）値 `v` で呼ぶ。 -/
  | completes (ec : Nat) (v : T)

/-- `h` を `post` する三つの道筋。 -/
inductive Path
  /-- `await_suspend` の始めで取り消されていた。 -/
  | cancelled
  /-- 完了ハンドラ。 -/
  | handler
  /-- `starter` が投げた。 -/
  | starterThrew
deriving DecidableEq, Repr

/-- `await_suspend` と完了ハンドラがどこまで進んだか。 -/
inductive Pc (T : Type)
  /-- `await_suspend` の始め。次は `ct.is_cancelled()` の検査。 -/
  | suspend
  /-- 検査を通った。次は `starter` を呼ぶ。 -/
  | start
  /-- `starter` は戻った。ネットワークのスレッドがハンドラを `ec`、`v` で呼ぶのを待つ。 -/
  | inFlight (ec : Nat) (v : T)
  /-- `h` を `post` した。 -/
  | posted
deriving DecidableEq, Repr

/-- ループとネットワークのスレッドから見た状態。`starterCalls`、`posts`、`checked`、`path` は証明のための
記録で、`starter` と `ctx->post` を呼んだ回数、検査で読んだ値、`post` の道筋である。 -/
structure Await (X T : Type) where
  aw : AsioAwaitable X T
  pc : Pc T
  starterCalls : Nat
  posts : Nat
  checked : Option Bool
  path : Option Path

variable {X T : Type}

/-- `co_await` が `await_ready()`（常に偽）の後で `await_suspend(h)` に入るところ。 -/
def Await.init (ct : CancelToken) : Await X T := ⟨⟨ct, ⟨0, none⟩, none⟩, .suspend, 0, 0, none, none⟩

/-- `ctx->post([h] { if (h) h.resume(); })`：道筋 `p` で `h` を `post` する。 -/
def Await.post (a : Await X T) (p : Path) : Await X T :=
  { a with posts := a.posts + 1, path := some p, pc := .posted }

/-- 一歩。`suspend` と `start` はループのスレッドの `await_suspend`、`inFlight` はネットワークのスレッドの
完了ハンドラ（直した `emplace(static_cast<T>(args)...)` のもの）である。`heap` はこの時点の共有された
取り消しの状態。 -/
def Await.step (st : Starter X T) (isVoid : Bool) (heap : Heap) (a : Await X T) : Await X T :=
  match a.pc with
  | .suspend =>
      if a.aw.ct.isCancelled heap then { a with checked := some true }.post .cancelled
      else { a with pc := .start, checked := some false }
  | .start =>
      match st with
      | .throws e =>
          { a with aw := { a.aw with ex := some e }, starterCalls := a.starterCalls + 1 }.post .starterThrew
      | .completes ec v => { a with pc := .inFlight ec v, starterCalls := a.starterCalls + 1 }
  | .inFlight ec v =>
      { a with aw := { a.aw with res :=
          ⟨ec, if !isVoid && ec == 0 then some v else a.aw.res.value⟩ } }.post .handler
  | .posted => a

/-- `await_resume` の結果。 -/
inductive Resumed (X T : Type)
  /-- `throw std::system_error(cancelled_ec())`。 -/
  | cancelled
  /-- `std::rethrow_exception(ex)`。 -/
  | rethrow (e : X)
  /-- `throw to_system_error(res.ec)`。 -/
  | systemError (ec : Nat)
  /-- `return;`（`T = void`）。 -/
  | unit
  /-- `return std::move(*res.value);` -/
  | value (v : T)
  /-- 空の `optional` の `*res.value`（未定義の動作）。 -/
  | emptyDeref
deriving DecidableEq, Repr

/-- `asio_awaitable::await_resume`：再開した時点の共有された状態 `heap` でトークンを読む。 -/
def AsioAwaitable.awaitResume (heap : Heap) (isVoid : Bool) (a : AsioAwaitable X T) : Resumed X T :=
  if a.ct.isCancelled heap then .cancelled
  else
    match a.ex with
    | some e => .rethrow e
    | none =>
        if a.res.ec ≠ 0 then .systemError a.res.ec
        else if isVoid then .unit
        else
          match a.res.value with
          | some v => .value v
          | none => .emptyDeref

/-- 検査を通ったときに `h` を `post` する道筋。 -/
def Starter.path : Starter X T → Path
  | .throws _ => .starterThrew
  | .completes _ _ => .handler

/-- 再開した時点で取り消されているか（`c`）と `starter` の振る舞いから決まる、再開したときに起きること：
取り消されていれば `canceled`、そうでなければ `starter` の例外、ハンドラに渡った `ec` の
`system_error`、完了で渡った値の順。 -/
def Starter.outcome (st : Starter X T) (isVoid : Bool) (c : Bool) : Resumed X T :=
  if c then .cancelled
  else
    match st with
    | .throws e => .rethrow e
    | .completes ec v => if ec ≠ 0 then .systemError ec else if isVoid then .unit else .value v

theorem Starter.outcome_ne_emptyDeref (st : Starter X T) (isVoid c : Bool) :
    st.outcome isVoid c ≠ .emptyDeref := by
  unfold Starter.outcome
  split
  · simp
  · split
    · simp
    · split
      · simp
      · split <;> simp

/-- `h` を `post` するまでに残る一歩の数の上限。 -/
def Pc.left : Pc T → Nat
  | .suspend => 3
  | .start => 2
  | .inFlight _ _ => 1
  | .posted => 0

theorem Pc.left_eq_zero {p : Pc T} : p.left = 0 ↔ p = .posted := by
  cases p <;> simp [Pc.left]

/-! ## 各位置で成り立つこと -/

section Inv

variable (st : Starter X T) (isVoid : Bool) (ct : CancelToken)

/-- `starter` の振る舞いのとおりに、ハンドラか `catch` の節が結果を書いた。 -/
def AsioAwaitable.Delivered (a : AsioAwaitable X T) : Prop :=
  match st with
  | .throws e => a.ex = some e
  | .completes ec v => a.ex = none ∧ a.res = ⟨ec, if !isVoid && ec == 0 then some v else none⟩

/-- 各位置で成り立つこと。`heap` は共有された取り消しの状態で、検査で取り消しを読んだのなら、
トークンはその後も取り消されたままである。 -/
def Await.Inv (heap : Heap) (a : Await X T) : Prop :=
  a.aw.ct = ct ∧
  match a.pc with
  | .suspend => a.checked = none ∧ a.starterCalls = 0 ∧ a.posts = 0 ∧ a.path = none ∧
      a.aw.ex = none ∧ a.aw.res = ⟨0, none⟩
  | .start => a.checked = some false ∧ a.starterCalls = 0 ∧ a.posts = 0 ∧ a.path = none ∧
      a.aw.ex = none ∧ a.aw.res = ⟨0, none⟩
  | .inFlight ec v => a.checked = some false ∧ a.starterCalls = 1 ∧ a.posts = 0 ∧ a.path = none ∧
      a.aw.ex = none ∧ a.aw.res = ⟨0, none⟩ ∧ st = .completes ec v
  | .posted => a.posts = 1 ∧ ∃ c, a.checked = some c ∧ a.starterCalls = (if c then 0 else 1) ∧
      a.path = some (if c then .cancelled else st.path) ∧
      if c then ct.isCancelled heap = true else a.aw.Delivered st isVoid

theorem Await.inv_init (heap : Heap) : (Await.init ct : Await X T).Inv st isVoid ct heap := by
  simp [Await.Inv, Await.init]

theorem Await.Inv.cancel {heap : Heap} {a : Await X T} (ha : a.Inv st isVoid ct heap) {w : World}
    (hw : w.heap = heap) (op : Op) : a.Inv st isVoid ct (w.apply op).heap := by
  obtain ⟨hct, h⟩ := ha
  refine ⟨hct, ?_⟩
  cases hpc : a.pc <;> simp only [hpc] at h ⊢
  case posted =>
    obtain ⟨hp, c, hc, hcalls, hpath, hd⟩ := h
    refine ⟨hp, c, hc, hcalls, hpath, ?_⟩
    cases c
    · exact hd
    · exact CancelToken.isCancelled_apply op (hw ▸ hd)
  all_goals exact h

theorem Await.Inv.step {heap : Heap} {a : Await X T} (ha : a.Inv st isVoid ct heap) :
    (a.step st isVoid heap).Inv st isVoid ct heap := by
  obtain ⟨hct, h⟩ := ha
  cases hpc : a.pc with
  | suspend =>
      obtain ⟨-, hs, hp, hpath, he, hr⟩ : a.checked = none ∧ a.starterCalls = 0 ∧ a.posts = 0 ∧
          a.path = none ∧ a.aw.ex = none ∧ a.aw.res = ⟨0, none⟩ := by simpa only [hpc] using h
      simp only [Await.step, hpc]
      split
      case isTrue hc =>
        have hc' : ct.isCancelled heap = true := hct ▸ hc
        simp [Await.Inv, Await.post, hct, hs, hp, hc']
      case isFalse => simp [Await.Inv, hct, hs, hp, hpath, he, hr]
  | start =>
      obtain ⟨hk, hs, hp, hpath, he, hr⟩ : a.checked = some false ∧ a.starterCalls = 0 ∧ a.posts = 0 ∧
          a.path = none ∧ a.aw.ex = none ∧ a.aw.res = ⟨0, none⟩ := by simpa only [hpc] using h
      cases st with
      | throws e =>
          simp [Await.step, hpc, Await.Inv, Await.post, hct, hk, hs, hp, Starter.path,
            AsioAwaitable.Delivered]
      | completes ec v => simp [Await.step, hpc, Await.Inv, hct, hk, hs, hp, hpath, he, hr]
  | inFlight ec v =>
      obtain ⟨hk, hs, hp, -, he, hr, hst⟩ : a.checked = some false ∧ a.starterCalls = 1 ∧ a.posts = 0 ∧
          a.path = none ∧ a.aw.ex = none ∧ a.aw.res = ⟨0, none⟩ ∧ st = .completes ec v := by
        simpa only [hpc] using h
      simp [Await.step, hpc, Await.Inv, Await.post, hct, hk, hs, hp, he, hr, hst, Starter.path,
        AsioAwaitable.Delivered]
  | posted =>
      have hstep : a.step st isVoid heap = a := by simp [Await.step, hpc]
      rw [hstep]
      exact ⟨hct, h⟩

/-- 道筋が決まった後の `await_resume` は、再開した時点のトークンの観測と `starter` の振る舞いで決まる。 -/
theorem Await.Inv.awaitResume {heap : Heap} {a : Await X T} (ha : a.Inv st isVoid ct heap)
    (hpc : a.pc = .posted) :
    a.aw.awaitResume heap isVoid = st.outcome isVoid (ct.isCancelled heap) := by
  obtain ⟨hct, h⟩ := ha
  obtain ⟨-, c, -, -, -, hd⟩ : a.posts = 1 ∧ ∃ c, a.checked = some c ∧
      a.starterCalls = (if c then 0 else 1) ∧ a.path = some (if c then .cancelled else st.path) ∧
      if c then ct.isCancelled heap = true else a.aw.Delivered st isVoid := by
    simpa only [hpc] using h
  cases c with
  | true =>
      have hcan : ct.isCancelled heap = true := by simpa using hd
      simp [AsioAwaitable.awaitResume, Starter.outcome, hct, hcan]
  | false =>
      simp only [Bool.false_eq_true, if_false] at hd
      by_cases hcan : ct.isCancelled heap = true
      · simp [AsioAwaitable.awaitResume, Starter.outcome, hct, hcan]
      · simp only [AsioAwaitable.awaitResume, Starter.outcome, hct, hcan, Bool.false_eq_true, if_false]
        cases st with
        | throws e => simp only [AsioAwaitable.Delivered] at hd; simp [hd]
        | completes ec v =>
            obtain ⟨he, hr⟩ := hd
            simp only [he, hr]
            by_cases hec : ec = 0 <;> cases isVoid <;> simp [hec]

end Inv

theorem Await.left_step (st : Starter X T) (isVoid : Bool) (heap : Heap) (a : Await X T) :
    (a.step st isVoid heap).pc.left ≤ a.pc.left - 1 := by
  cases hpc : a.pc with
  | suspend => simp only [Await.step, hpc]; split <;> simp [Await.post, Pc.left]
  | start => simp only [Await.step, hpc]; split <;> simp [Await.post, Pc.left]
  | inFlight ec v => simp [Await.step, hpc, Await.post, Pc.left]
  | posted => simp [Await.step, hpc, Pc.left]

/-- 検査を済ませた後は、読んだ値を忘れない。 -/
theorem Await.checked_step (st : Starter X T) (isVoid : Bool) (heap : Heap) {a : Await X T}
    {c : Bool} (hpc : a.pc ≠ .suspend) (hc : a.checked = some c) :
    (a.step st isVoid heap).pc ≠ .suspend ∧ (a.step st isVoid heap).checked = some c := by
  cases hp : a.pc with
  | suspend => exact absurd hp hpc
  | start => simp only [Await.step, hp]; split <;> simp [Await.post, hc]
  | inFlight ec v => simp [Await.step, hp, Await.post, hc]
  | posted => simp [Await.step, hp, hc]

/-- 取り消し操作とスレッドの一歩のどの列の後でも、不変条件は成り立つ。 -/
theorem Await.Inv.run {st : Starter X T} {isVoid : Bool} {ct : CancelToken} {s : Par (Await X T)}
    (hs : s.loc.Inv st isVoid ct s.cancel.heap) (evs : List Event) :
    (s.run (Await.step st isVoid) evs).loc.Inv st isVoid ct (s.run (Await.step st isVoid) evs).cancel.heap :=
  Par.run_inv _ (I := fun s : Par (Await X T) => s.loc.Inv st isVoid ct s.cancel.heap)
    (fun _ e hp => by
      cases e with
      | cancel op => exact hp.cancel st isVoid ct rfl op
      | step => exact hp.step st isVoid ct)
    evs hs

theorem Await.Inv.posts {st : Starter X T} {isVoid : Bool} {ct : CancelToken} {heap : Heap}
    {a : Await X T} (ha : a.Inv st isVoid ct heap) :
    a.posts ≤ 1 ∧ (a.posts = 1 ↔ a.pc = .posted) ∧ (a.checked = some true → a.starterCalls = 0) := by
  obtain ⟨-, h⟩ := ha
  cases hpc : a.pc <;> simp only [hpc] at h
  case posted =>
    obtain ⟨hp, c, hc, hcalls, -⟩ := h
    refine ⟨by omega, by simp [hp], fun ht => ?_⟩
    obtain rfl : c = true := Option.some_injective _ (hc.symm.trans ht)
    simpa using hcalls
  all_goals simp [hpc, h.1, h.2.2.1]

/-! ## ネットワークの awaitable の法則 -/

/-- 約束を守るどの `starter`、どのトークン、取り消し操作とループ・ネットワークのスレッドの一歩のどの
交互の列でも：`await_suspend` の検査はその時点のトークンの観測 `c` を読み、`c` が真なら `starter` を
呼ばない。`h` の `post` は高々一度で、三つの道筋のうち `c` と `starter` の振る舞いで決まる一つを通る。
その後いつ再開しても、`await_resume` は再開した時点の観測と `starter` の振る舞いから `Starter.outcome`
のとおりに決まり、空の `optional` を読まない。検査の後、二歩で `post` に至る。 -/
theorem asio_awaitable_laws (st : Starter X T) (isVoid : Bool) (cancel : Cancel.World)
    (ct : CancelToken) (ops : List Cancel.Op) (evs : List Event) :
    let s₀ : Par (Await X T) := ⟨cancel, Await.init ct⟩
    let c := ct.isCancelled (s₀.run (Await.step st isVoid) (ops.map .cancel)).cancel.heap
    let s := s₀.run (Await.step st isVoid) (ops.map .cancel ++ .step :: evs)
    s.loc.checked = some c ∧ (c = true → s.loc.starterCalls = 0) ∧
    s.loc.posts ≤ 1 ∧ (s.loc.posts = 1 ↔ s.loc.pc = .posted) ∧
    (s.loc.pc = .posted →
      s.loc.path = some (if c then .cancelled else st.path) ∧
      s.loc.starterCalls = (if c then 0 else 1) ∧
      s.loc.aw.awaitResume s.cancel.heap isVoid = st.outcome isVoid (ct.isCancelled s.cancel.heap) ∧
      s.loc.aw.awaitResume s.cancel.heap isVoid ≠ .emptyDeref) ∧
    (2 ≤ evs.count .step → s.loc.pc = .posted) := by
  intro s₀ c s
  let s₁ := (s₀.run (Await.step st isVoid) (ops.map .cancel)).apply (Await.step st isVoid) .step
  have hs : s = s₁.run (Await.step st isVoid) evs := Par.run_cancels_step _ _ _ _
  have h₁ : s₁.loc = Await.step st isVoid
      (s₀.run (Await.step st isVoid) (ops.map .cancel)).cancel.heap (Await.init ct) := by
    simp only [s₁, Par.apply, Par.run_cancels_loc]
  have hcheck : s₁.loc.pc ≠ .suspend ∧ s₁.loc.checked = some c := by
    rw [h₁]
    simp only [Await.step, Await.init]
    split <;> simp_all [c, Await.post]
  have hinv : s.loc.Inv st isVoid ct s.cancel.heap :=
    Await.Inv.run (s := s₀) (Await.inv_init st isVoid ct _) _
  have hc : s.loc.checked = some c := by
    rw [hs]
    exact (Par.run_loc _ (P := fun a : Await X T => a.pc ≠ .suspend ∧ a.checked = some c)
      (fun _ _ h => Await.checked_step st isVoid _ h.1 h.2) evs hcheck).2
  obtain ⟨hle, hpost, hcalls⟩ := hinv.posts
  refine ⟨hc, fun ht => hcalls (ht ▸ hc), hle, hpost, fun hp => ?_, fun hn => ?_⟩
  · obtain ⟨-, c', hc', hcalls', hpath, -⟩ : s.loc.posts = 1 ∧ ∃ c, s.loc.checked = some c ∧
        s.loc.starterCalls = (if c then 0 else 1) ∧
        s.loc.path = some (if c then .cancelled else st.path) ∧
        if c then ct.isCancelled s.cancel.heap = true else s.loc.aw.Delivered st isVoid := by
      simpa only [hp] using hinv.2
    rw [Option.some_injective _ (hc'.symm.trans hc)] at hcalls' hpath
    have hres := hinv.awaitResume st isVoid ct hp
    exact ⟨hpath, hcalls', hres, hres ▸ Starter.outcome_ne_emptyDeref st isVoid _⟩
  · have h₂ : s₁.loc.pc.left ≤ 2 := by rw [h₁]; exact Await.left_step st isVoid _ _
    rw [hs]
    exact Pc.left_eq_zero.1 (Par.run_measure_zero _ (m := fun a : Await X T => a.pc.left)
      (Await.left_step st isVoid) (h₂.trans hn))

end Cnerium.Net
