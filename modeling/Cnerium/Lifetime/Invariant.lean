import Cnerium.Lifetime.Basic
import Mathlib.Data.List.Nodup

/-!
# 寿命の不変条件

決まりを守る一歩の列で届く世界で成り立つ性質を `World.Inv` にまとめ、各一歩がそれを保つことを示す。
持ち主についての条件（タスク値の変数と `make_detached` の引数がフレームを一つずつ持つ）と、再開の
条件（止まっているフレームを再開するものがちょうど一つある）からなる。
-/

namespace Cnerium.Lifetime

namespace World

/-- 壊れていない `make_detached` のフレーム `p` が、引数のタスク値でフレーム `g` を持つ。 -/
def Holds (w : World) (p g : Handle) : Prop :=
  (w.frames p).kind = .detachedTask (some g) ∧ (w.frames p).life.isLive

/-- 届く世界の不変条件。 -/
structure Inv (w : World) : Prop where
  blank : ∀ h, w.size ≤ h → w.frames h = .fresh
  var_lt : ∀ i g, w.vars i = some g → g < w.size
  var_unique : ∀ i j g, w.vars i = some g → w.vars j = some g → i = j
  var_frame : ∀ i g, w.vars i = some g → (w.frames g).kind = .task ∧
    (w.frames g).detached = false ∧ (w.frames g).life.isLive ∧ ∀ p, ¬ w.Holds p g
  var_fresh : ∀ i g, w.vars i = some g → (w.frames g).awaited = false →
    (w.frames g).life = .initial
  param : ∀ p g, w.Holds p g → g < w.size ∧ (w.frames g).kind = .task ∧
    (w.frames g).detached = false ∧
    (((w.frames p).life = .initial ∧ (w.frames g).life = .initial ∧
      (w.frames g).awaited = false) ∨ (w.frames p).life = .awaiting g)
  param_unique : ∀ p p' g, w.Holds p g → w.Holds p' g → p = p'
  owned : ∀ g, g < w.size → (w.frames g).kind = .task → (w.frames g).detached = false →
    (w.frames g).life.isLive → (∃ i, w.vars i = some g) ∨ ∃ p, w.Holds p g
  self : ∀ h, ((w.frames h).detached = true ∨ (w.frames h).kind ≠ .task) →
    (w.frames h).continuation = none ∧ (w.frames h).awaited = false ∧ (w.frames h).life ≠ .final
  wrapper_life : ∀ h t, (w.frames h).kind = .detachedTask t → (w.frames h).life = .initial ∨
    (∃ g, t = some g ∧ (w.frames h).life = .awaiting g) ∨ ∃ c, (w.frames h).life = .destroyed c
  cause : ∀ h c, (w.frames h).life = .destroyed c →
    (c = .finalAwaiter ↔ ((w.frames h).detached = true ∨ (w.frames h).kind ≠ .task))
  fresh_cont : ∀ h, ((w.frames h).awaited = false ∨ (w.frames h).life = .initial) →
    (w.frames h).continuation = none
  queued : ∀ h, h ∈ w.sched.q ++ w.pending ↔ h < w.size ∧ ((w.frames h).life = .waiting ∨
    ((w.frames h).life = .initial ∧ ((w.frames h).detached = true ∨ (w.frames h).kind ≠ .task ∨
      (w.frames h).awaited = true)))
  nodup : (w.sched.q ++ w.pending).Nodup
  running : ∀ h, (w.frames h).life = .running ↔ w.cur = some h
  awaiting : ∀ c g, (w.frames c).life = .awaiting g →
    (w.frames g).continuation = some c ∧ (w.frames g).life.inFlight
  cont : ∀ g c, (w.frames g).continuation = some c → (w.frames g).life.inFlight →
    (w.frames c).life = .awaiting g

theorem inv_init : init.Inv where
  blank _ _ := rfl
  var_lt := by simp [init]
  var_unique := by simp [init]
  var_frame := by simp [init]
  var_fresh := by simp [init]
  param := by simp [init, Holds, Frame.fresh]
  param_unique := by simp [init, Holds, Frame.fresh]
  owned := by simp [init]
  self := by simp [init, Frame.fresh]
  wrapper_life := by simp [init, Frame.fresh]
  cause := by simp [init, Frame.fresh]
  fresh_cont := by simp [init, Frame.fresh]
  queued := by simp [init, Core.Scheduler.init]
  nodup := by simp [init, Core.Scheduler.init]
  running := by simp [init, Frame.fresh]
  awaiting := by simp [init, Frame.fresh]
  cont := by simp [init, Frame.fresh]

/-- 一歩の前に壊れていたフレームは、一歩の後も同じである。 -/
def Keeps (w w' : World) : Prop := ∀ h, (w.frames h).life.isLive = false → w'.frames h = w.frames h

theorem Keeps.of_frames {w w' : World} (hf : w'.frames = w.frames) : w.Keeps w' :=
  fun _ _ => by rw [hf]

/-- 書き換えたのが壊れていない二つのフレームだけなら、壊れたフレームはそのまま。 -/
theorem Keeps.of_two {w w' : World} {f g : Handle} (hf : (w.frames f).life.isLive)
    (hg : (w.frames g).life.isLive) (ho : ∀ x, x ≠ f → x ≠ g → w'.frames x = w.frames x) :
    w.Keeps w' := by
  intro x hx
  exact ho x (by rintro rfl; simp [hf] at hx) (by rintro rfl; simp [hg] at hx)

/-! ## 変数だけを書き換える一歩 -/

/-- 変数だけを書き換え、持たれているフレームの集まりを変えず、一つのフレームを二つの変数が
持つこともない一歩は、不変条件を保つ。 -/
theorem Inv.of_vars {w w' : World} (hi : w.Inv) (hf : w'.frames = w.frames)
    (hs : w'.size = w.size) (hq : w'.sched = w.sched) (hp : w'.pending = w.pending)
    (hc : w'.cur = w.cur) (hsub : ∀ i g, w'.vars i = some g → ∃ j, w.vars j = some g)
    (hsup : ∀ j g, w.vars j = some g → ∃ i, w'.vars i = some g)
    (huniq : ∀ i j g, w'.vars i = some g → w'.vars j = some g → i = j) : w'.Inv := by
  have hh : ∀ p g, w'.Holds p g ↔ w.Holds p g := by simp [Holds, hf]
  refine ⟨?_, ?_, huniq, ?_, ?_, ?_, ?_, ?_, ?_, ?_, ?_, ?_, ?_, ?_, ?_, ?_, ?_⟩ <;>
    simp only [hf, hs, hq, hp, hc, hh]
  · exact hi.blank
  · intro i g h; obtain ⟨j, hj⟩ := hsub i g h; exact hi.var_lt j g hj
  · intro i g h; obtain ⟨j, hj⟩ := hsub i g h; exact hi.var_frame j g hj
  · intro i g h; obtain ⟨j, hj⟩ := hsub i g h; exact hi.var_fresh j g hj
  · exact hi.param
  · exact hi.param_unique
  · intro g hg hk hd hl
    rcases hi.owned g hg hk hd hl with ⟨j, hj⟩ | hp'
    · exact .inl (hsup j g hj)
    · exact .inr hp'
  · exact hi.self
  · exact hi.wrapper_life
  · exact hi.cause
  · exact hi.fresh_cont
  · exact hi.queued
  · exact hi.nodup
  · exact hi.running
  · exact hi.awaiting
  · exact hi.cont

/-- `task t_j(std::move(t_i))` で `t_j` が新しい変数なら、不変条件は保たれる。 -/
theorem Inv.moveConstruct {w : World} (hi : w.Inv) {i j : Nat} (hij : i ≠ j)
    (hj : w.vars j = none) : ((w.assign j (w.vars i)).assign i none).Inv := by
  refine hi.of_vars rfl rfl rfl rfl rfl ?_ ?_ ?_
  · intro k g hk
    by_cases hki : k = i
    · simp [hki] at hk
    by_cases hkj : k = j
    · subst hkj; exact ⟨i, by simpa [hki] using hk⟩
    · exact ⟨k, by simpa [hki, hkj] using hk⟩
  · intro k g hk
    by_cases hki : k = i
    · subst hki; exact ⟨j, by simp [Ne.symm hij, hk]⟩
    · have hkj : k ≠ j := by rintro rfl; simp [hj] at hk
      exact ⟨k, by simp [hki, hkj, hk]⟩
  · intro k l g hk hl
    have key : ∀ m, (((w.assign j (w.vars i)).assign i none).vars m = some g) →
        m ≠ i ∧ w.vars (if m = j then i else m) = some g := by
      intro m hm
      by_cases hmi : m = i
      · simp [hmi] at hm
      by_cases hmj : m = j <;> simp_all
    obtain ⟨hki, hk'⟩ := key k hk
    obtain ⟨hli, hl'⟩ := key l hl
    have := hi.var_unique _ _ g hk' hl'
    split_ifs at this <;> simp_all

/-! ## タスク値のデストラクタ -/

/-- 変数が持つフレームは、壊れていない `task<T>` のフレームなので、`task::destroy` はそれを
持ち主として壊すだけである。 -/
theorem destroy_some {w : World} {i g : Nat} (hv : w.vars i = some g) (hk : (w.frames g).kind = .task)
    (hl : (w.frames g).life.isLive) :
    w.destroy i = .ok ((w.setLife g (.destroyed .owner)).assign i none) := by
  have hkill : w.kill g .owner = .ok (w.setLife g (.destroyed .owner)) := by
    unfold kill; split <;> simp_all [Life.isLive]
  simp [destroy, hv, destroyHandle, hkill, hk, Except.map]

theorem destroy_none {w : World} {i : Nat} (hv : w.vars i = none) : w.destroy i = .ok w := by
  simp [destroy, hv]

/-- 止まっていないフレームを持つタスク値を壊しても、不変条件は保たれる。 -/
theorem Inv.release {w : World} (hi : w.Inv) {i g : Nat} (hv : w.vars i = some g)
    (hidle : ((w.frames g).life = .initial ∧ (w.frames g).awaited = false) ∨
      (w.frames g).life = .final) :
    ((w.setLife g (.destroyed .owner)).assign i none).Inv := by
  obtain ⟨hk, hd, hl, hnh⟩ := hi.var_frame i g hv
  have hg := hi.var_lt i g hv
  have hnf : (w.frames g).life.inFlight = false := by
    rcases hidle with ⟨h, -⟩ | h <;> simp [h, Life.inFlight]
  have hnr : w.cur ≠ some g := fun h => by
    rcases hidle with ⟨h', -⟩ | h' <;> simp [(hi.running g).2 h] at h'
  have hnaw : ∀ c, (w.frames c).life ≠ .awaiting g := fun c h => by
    simpa [hnf] using (hi.awaiting c g h).2
  -- 壊れていない `make_detached` のフレームは `g` ではない
  have hholds : ∀ p x, ((w.setLife g (.destroyed .owner)).assign i none).Holds p x ↔ w.Holds p x := by
    intro p x
    by_cases hp : p = g
    · subst hp; simp [Holds, hk]
    · simp [Holds, hp]
  have hvar : ∀ j x, ((w.setLife g (.destroyed .owner)).assign i none).vars j = some x →
      j ≠ i ∧ x ≠ g ∧ w.vars j = some x := by
    intro j x hj
    have hji : j ≠ i := by rintro rfl; simp at hj
    simp only [assign_vars, Function.update_noteq hji] at hj
    exact ⟨hji, fun hx => hji (hi.var_unique j i g (hx ▸ hj) hv), hj⟩
  constructor
  · intro h hh; simpa [Nat.ne_of_gt (Nat.lt_of_lt_of_le hg hh)] using hi.blank h hh
  · intro j x hj; exact hi.var_lt j x (hvar j x hj).2.2
  · intro j k x hj hk'; exact hi.var_unique j k x (hvar j x hj).2.2 (hvar k x hk').2.2
  · intro j x hj
    obtain ⟨-, hx, hj⟩ := hvar j x hj
    simpa [hx, hholds] using hi.var_frame j x hj
  · intro j x hj
    obtain ⟨-, hx, hj⟩ := hvar j x hj
    simpa [hx] using hi.var_fresh j x hj
  · intro p x hpx
    rw [hholds] at hpx
    have hp : p ≠ g := by rintro rfl; simp [Holds, hk] at hpx
    have hx : x ≠ g := by rintro rfl; exact hnh p hpx
    simpa [hp, hx] using hi.param p x hpx
  · intro p p' x; rw [hholds, hholds]; exact hi.param_unique p p' x
  · intro x hx hk' hd' hl'
    have hxg : x ≠ g := by rintro rfl; simp [Life.isLive] at hl'
    simp only [assign_frames, setLife_frames, Function.update_noteq hxg, assign_size,
      setLife_size] at hk' hd' hl' hx
    rcases hi.owned x hx hk' hd' hl' with ⟨j, hj⟩ | ⟨p, hp⟩
    · have hji : j ≠ i := by rintro rfl; exact hxg (Option.some.inj (hv ▸ hj)).symm
      exact .inl ⟨j, by simp [hji, hj]⟩
    · exact .inr ⟨p, (hholds p x).2 hp⟩
  · intro x hx
    by_cases hxg : x = g
    · subst hxg; simp [hd, hk] at hx
    · simpa [hxg] using hi.self x (by simpa [hxg] using hx)
  · intro x t hx
    by_cases hxg : x = g
    · subst hxg; simp [hk] at hx
    · simpa [hxg] using hi.wrapper_life x t (by simpa [hxg] using hx)
  · intro x c hx
    by_cases hxg : x = g
    · subst hxg; simp at hx; subst hx; simp [hd, hk]
    · simpa [hxg] using hi.cause x c (by simpa [hxg] using hx)
  · intro x hx
    by_cases hxg : x = g
    · subst hxg; simpa using hi.fresh_cont x (.inl (by simpa using hx))
    · simpa [hxg] using hi.fresh_cont x (by simpa [hxg] using hx)
  · intro x
    by_cases hxg : x = g
    · subst hxg
      have := hi.queued x
      rcases hidle with ⟨h, ha⟩ | h <;> simp_all
    · simpa [hxg] using hi.queued x
  · simpa using hi.nodup
  · intro x
    by_cases hxg : x = g
    · subst hxg; simpa using hnr
    · simpa [hxg] using hi.running x
  · intro c x hc
    have hcg : c ≠ g := by rintro rfl; simp at hc
    simp only [assign_frames, setLife_frames, Function.update_noteq hcg] at hc
    have hxg : x ≠ g := by rintro rfl; exact hnaw c hc
    simpa [hxg] using hi.awaiting c x hc
  · intro x c hx hf
    have hxg : x ≠ g := by rintro rfl; simp [Life.inFlight] at hf
    simp only [assign_frames, setLife_frames, Function.update_noteq hxg] at hx hf
    have hc := hi.cont x c hx hf
    have hcg : c ≠ g := by rintro rfl; rcases hidle with ⟨h, -⟩ | h <;> simp [h] at hc
    simpa [hcg] using hc

/-! ## 新しいフレーム -/

/-- 番号 `w.size` のフレームはまだ作られておらず、作られたばかりのフレームと同じである。 -/
theorem Inv.alloc_fresh {w : World} (hi : w.Inv) : Function.update w.frames w.size .fresh = w.frames := by
  funext h
  by_cases hh : h = w.size
  · subst hh; simp [hi.blank _ (Nat.le_refl _)]
  · simp [hh]

/-- まだ作られていないフレームを持つものはない。 -/
theorem Inv.not_holds_size {w : World} (hi : w.Inv) (p : Handle) : ¬ w.Holds p w.size := by
  intro hp
  have hpl : p < w.size := by
    by_contra hge
    have := hp.1
    simp [hi.blank p (Nat.le_of_not_lt hge), Frame.fresh] at this
  exact Nat.lt_irrefl _ (hi.param p w.size hp).1

/-- 空の変数 `t_i` への `t_i = coro()`。 -/
theorem Inv.create {w w' : World} (hi : w.Inv) {i : Nat} (hv : w.vars i = none)
    (hf : w'.frames = w.frames) (hs : w'.size = w.size + 1)
    (hvars : w'.vars = Function.update w.vars i (some w.size)) (hcur : w'.cur = w.cur)
    (hsq : w'.sched = w.sched) (hp : w'.pending = w.pending) : w'.Inv := by
  have hvar : ∀ j x, w'.vars j = some x → (j = i ∧ x = w.size) ∨ (j ≠ i ∧ w.vars j = some x) := by
    intro j x hj
    by_cases hji : j = i
    · subst hji; simp [hvars] at hj; exact .inl ⟨rfl, hj.symm⟩
    · simp [hvars, hji] at hj; exact .inr ⟨hji, hj⟩
  have hholds : ∀ p x, w'.Holds p x ↔ w.Holds p x := by simp [Holds, hf]
  constructor <;> try simp only [hf, hs, hcur, hsq, hp, hholds]
  · intro h hh; exact hi.blank h (Nat.le_of_succ_le hh)
  · intro j x hj
    rcases hvar j x hj with ⟨-, rfl⟩ | ⟨-, hj⟩
    · exact Nat.lt_succ_self _
    · exact Nat.lt_succ_of_lt (hi.var_lt j x hj)
  · intro j k x hj hk
    rcases hvar j x hj with ⟨rfl, rfl⟩ | ⟨-, hj'⟩
    · rcases hvar k _ hk with ⟨rfl, -⟩ | ⟨-, hk'⟩
      · rfl
      · exact absurd (hi.var_lt k _ hk') (Nat.lt_irrefl _)
    · rcases hvar k x hk with ⟨-, rfl⟩ | ⟨-, hk'⟩
      · exact absurd (hi.var_lt j _ hj') (Nat.lt_irrefl _)
      · exact hi.var_unique j k x hj' hk'
  · intro j x hj
    rcases hvar j x hj with ⟨-, rfl⟩ | ⟨-, hj⟩
    · simpa [hi.blank _ (Nat.le_refl _), Frame.fresh, Life.isLive] using hi.not_holds_size
    · exact hi.var_frame j x hj
  · intro j x hj
    rcases hvar j x hj with ⟨-, rfl⟩ | ⟨-, hj⟩
    · simp [hi.blank _ (Nat.le_refl _), Frame.fresh]
    · exact hi.var_fresh j x hj
  · intro p x hpx
    obtain ⟨hx, h⟩ := hi.param p x hpx
    exact ⟨Nat.lt_succ_of_lt hx, h⟩
  · exact hi.param_unique
  · intro x hx hk hd hl
    rcases Nat.lt_succ_iff_lt_or_eq.1 hx with hx | rfl
    · rcases hi.owned x hx hk hd hl with ⟨j, hj⟩ | hp
      · have hji : j ≠ i := by rintro rfl; simp [hv] at hj
        exact .inl ⟨j, by simp [hvars, hji, hj]⟩
      · exact .inr hp
    · exact .inl ⟨i, by simp [hvars]⟩
  · exact hi.self
  · exact hi.wrapper_life
  · exact hi.cause
  · exact hi.fresh_cont
  · intro h
    rw [hi.queued h]
    constructor
    · rintro ⟨hh, h'⟩; exact ⟨Nat.lt_succ_of_lt hh, h'⟩
    · rintro ⟨hh, h'⟩
      refine ⟨?_, h'⟩
      rcases Nat.lt_succ_iff_lt_or_eq.1 hh with hh | rfl
      · exact hh
      · simp [hi.blank _ (Nat.le_refl _), Frame.fresh] at h'
  · exact hi.nodup
  · exact hi.running
  · exact hi.awaiting
  · exact hi.cont

/-! ## `start` と `spawn_detached` -/

/-- まだ `co_await` されていないフレームを持つタスク値の `start`：フレームは切り離されてキューに
積まれ、変数は空になる。 -/
theorem Inv.start {w : World} (hi : w.Inv) {i g : Nat} (hv : w.vars i = some g)
    (hfresh : (w.frames g).awaited = false) :
    (((w.modify g fun fr => { fr with detached := true }).post g).assign i none).Inv := by
  obtain ⟨hk, hd, -, hnh⟩ := hi.var_frame i g hv
  have hg := hi.var_lt i g hv
  have hinit := hi.var_fresh i g hv hfresh
  have hcont := hi.fresh_cont g (.inl hfresh)
  have hnq : g ∉ w.sched.q ++ w.pending := by simp [hi.queued, hinit, hd, hk, hfresh]
  set w' := ((w.modify g fun fr => { fr with detached := true }).post g).assign i none
  have hfr : ∀ x, w'.frames x = if x = g then { w.frames g with detached := true } else w.frames x := by
    intro x; by_cases hx : x = g <;> simp [w', hx]
  have hlife : ∀ x, (w'.frames x).life = (w.frames x).life := by
    intro x; rw [hfr]; split_ifs with hx <;> simp [hx]
  have hcontx : ∀ x, (w'.frames x).continuation = (w.frames x).continuation := by
    intro x; rw [hfr]; split_ifs with hx <;> simp [hx]
  have hholds : ∀ p x, w'.Holds p x ↔ w.Holds p x := by
    intro p x; simp only [Holds, hfr]; split_ifs with hp <;> simp [hp]
  have hvar : ∀ j x, w'.vars j = some x → x ≠ g ∧ w.vars j = some x := by
    intro j x hj
    have hji : j ≠ i := by rintro rfl; simp [w'] at hj
    simp only [w', assign_vars, Function.update_noteq hji, post_vars, modify_vars] at hj
    exact ⟨fun hx => hji (hi.var_unique j i g (hx ▸ hj) hv), hj⟩
  have hq : List.Perm (w'.sched.q ++ w'.pending) (g :: (w.sched.q ++ w.pending)) := by
    simp [w']
  constructor
  · intro h hh; rw [hfr, if_neg (Nat.ne_of_gt (Nat.lt_of_lt_of_le hg hh))]; exact hi.blank h hh
  · intro j x hj; exact hi.var_lt j x (hvar j x hj).2
  · intro j k x hj hk'; exact hi.var_unique j k x (hvar j x hj).2 (hvar k x hk').2
  · intro j x hj
    obtain ⟨hx, hj⟩ := hvar j x hj
    simpa [hfr, hx, hholds] using hi.var_frame j x hj
  · intro j x hj
    obtain ⟨hx, hj⟩ := hvar j x hj
    simpa [hfr, hx] using hi.var_fresh j x hj
  · intro p x hpx
    rw [hholds] at hpx
    have hx : x ≠ g := by rintro rfl; exact hnh p hpx
    have hp : p ≠ g := by rintro rfl; simp [Holds, hk] at hpx
    simpa [hfr, hx, hp] using hi.param p x hpx
  · intro p p' x; rw [hholds, hholds]; exact hi.param_unique p p' x
  · intro x hx hk' hd' hl'
    have hxg : x ≠ g := by rintro rfl; simp [hfr] at hd'
    simp only [hfr, if_neg hxg] at hk' hd' hl'
    rcases hi.owned x hx hk' hd' hl' with ⟨j, hj⟩ | ⟨p, hp⟩
    · have hji : j ≠ i := by rintro rfl; exact hxg (Option.some.inj (hv ▸ hj)).symm
      exact .inl ⟨j, by simp [w', hji, hj]⟩
    · exact .inr ⟨p, (hholds p x).2 hp⟩
  · intro x hx
    rw [hfr] at hx ⊢
    split_ifs at hx ⊢ with hxg
    · subst hxg; simp [hcont, hfresh, hinit]
    · exact hi.self x hx
  · intro x t hx
    rw [hfr] at hx ⊢
    split_ifs at hx ⊢ with hxg
    · simp [hk] at hx
    · exact hi.wrapper_life x t hx
  · intro x c hx
    rw [hlife] at hx
    rw [hfr]
    split_ifs with hxg
    · subst hxg; simp [hinit] at hx
    · exact hi.cause x c hx
  · intro x hx
    rw [hcontx]
    rw [hfr] at hx
    split_ifs at hx with hxg
    · subst hxg; exact hcont
    · exact hi.fresh_cont x hx
  · intro x
    rw [hq.mem_iff, List.mem_cons, hi.queued, hlife, hfr]
    by_cases hxg : x = g
    · subst hxg; simp [w', hg, hinit]
    · simp [hxg, w']
  · exact hq.nodup_iff.2 (List.nodup_cons.2 ⟨hnq, hi.nodup⟩)
  · intro x; rw [hlife]; exact hi.running x
  · intro c x hc; rw [hlife] at hc; rw [hcontx, hlife]; exact hi.awaiting c x hc
  · intro x c hx hf; rw [hcontx] at hx; rw [hlife] at hf ⊢; exact hi.cont x c hx hf

/-- まだ誰にも渡されていないフレームのハンドルを積む `ctx.post(t_i.handle())`：フレームはタスク値が
持ったまま、再開するジョブに渡されてキューに積まれる。 -/
theorem Inv.postHandle {w : World} (hi : w.Inv) {i g : Nat} (hv : w.vars i = some g)
    (hfresh : (w.frames g).awaited = false) :
    ((w.modify g fun fr => { fr with awaited := true }).post g).Inv := by
  obtain ⟨hk, hd, -, hnh⟩ := hi.var_frame i g hv
  have hg := hi.var_lt i g hv
  have hinit := hi.var_fresh i g hv hfresh
  have hnq : g ∉ w.sched.q ++ w.pending := by simp [hi.queued, hinit, hd, hk, hfresh]
  set w' := (w.modify g fun fr => { fr with awaited := true }).post g
  have hfr : ∀ x, w'.frames x = if x = g then { w.frames g with awaited := true } else w.frames x := by
    intro x; by_cases hx : x = g <;> simp [w', hx]
  -- `awaited` のほかは何も変わらない
  have hkind : ∀ x, (w'.frames x).kind = (w.frames x).kind := by
    intro x; rw [hfr]; split_ifs with hx <;> simp [hx]
  have hlife : ∀ x, (w'.frames x).life = (w.frames x).life := by
    intro x; rw [hfr]; split_ifs with hx <;> simp [hx]
  have hdet : ∀ x, (w'.frames x).detached = (w.frames x).detached := by
    intro x; rw [hfr]; split_ifs with hx <;> simp [hx]
  have hcontx : ∀ x, (w'.frames x).continuation = (w.frames x).continuation := by
    intro x; rw [hfr]; split_ifs with hx <;> simp [hx]
  have hholds : ∀ p x, w'.Holds p x ↔ w.Holds p x := by simp [Holds, hkind, hlife]
  have hq : List.Perm (w'.sched.q ++ w'.pending) (g :: (w.sched.q ++ w.pending)) := by simp [w']
  constructor <;> try simp only [hholds]
  · intro h hh; rw [hfr, if_neg (Nat.ne_of_gt (Nat.lt_of_lt_of_le hg hh))]; exact hi.blank h hh
  · exact hi.var_lt
  · exact hi.var_unique
  · intro j x hj; simpa only [hkind, hlife, hdet] using hi.var_frame j x hj
  · intro j x hj ha
    rw [hfr] at ha; rw [hlife]
    split_ifs at ha
    exact hi.var_fresh j x hj ha
  · intro p x hpx
    have hx : x ≠ g := by rintro rfl; exact hnh p hpx
    have hp : p ≠ g := by rintro rfl; simp [Holds, hk] at hpx
    simpa [hfr, hx, hp] using hi.param p x hpx
  · exact hi.param_unique
  · intro x hx hk' hd' hl'
    rw [hkind] at hk'; rw [hlife] at hl'; rw [hdet] at hd'
    exact hi.owned x hx hk' hd' hl'
  · intro x hx
    rw [hfr] at hx ⊢
    split_ifs at hx ⊢
    · simp [hd, hk] at hx
    · exact hi.self x hx
  · intro x t hx; rw [hkind] at hx; rw [hlife]; exact hi.wrapper_life x t hx
  · intro x c hx; rw [hlife] at hx; rw [hdet, hkind]; exact hi.cause x c hx
  · intro x hx
    rw [hcontx]
    rw [hfr] at hx
    split_ifs at hx with hxg
    · subst hxg; exact hi.fresh_cont x (.inl hfresh)
    · exact hi.fresh_cont x hx
  · intro x
    rw [hq.mem_iff, List.mem_cons, hi.queued, hfr]
    by_cases hxg : x = g
    · subst hxg; simp [w', hg, hinit]
    · simp [hxg, w']
  · exact hq.nodup_iff.2 (List.nodup_cons.2 ⟨hnq, hi.nodup⟩)
  · intro x; rw [hlife]; exact hi.running x
  · intro c x hc; rw [hlife] at hc; rw [hcontx, hlife]; exact hi.awaiting c x hc
  · intro x c hx hf; rw [hcontx] at hx; rw [hlife] at hf ⊢; exact hi.cont x c hx hf

/-- `spawn_detached(ctx, std::move(t_i))`：`make_detached` の新しいフレームが `t_i` のフレームを
引数で持ち、キューに積まれる。 -/
theorem Inv.spawn {w : World} (hi : w.Inv) {i : Nat} (hfresh : w.Fresh (w.vars i)) :
    (((w.alloc (.wrapper (w.vars i))).assign i none).post w.size).Inv := by
  set n := w.size
  set w' := ((w.alloc (.wrapper (w.vars i))).assign i none).post n
  have hfr : ∀ x, w'.frames x = if x = n then .wrapper (w.vars i) else w.frames x := by
    intro x; by_cases hx : x = n <;> simp [w', hx]
  have hlt : ∀ x, x ≠ n → (x < w'.size ↔ x < n) := by
    intro x hx; simp only [w', post_size, assign_size, alloc_size]; omega
  -- 渡されたフレーム（あれば）は作られたばかりのまま
  have hg : ∀ g, w.vars i = some g → g < n ∧ (w.frames g).kind = .task ∧
      (w.frames g).detached = false ∧ (w.frames g).life = .initial ∧
      (w.frames g).awaited = false ∧ ∀ p, ¬ w.Holds p g := by
    intro g hv
    obtain ⟨hk, hd, -, hnh⟩ := hi.var_frame i g hv
    exact ⟨hi.var_lt i g hv, hk, hd, hi.var_fresh i g hv (hfresh g hv), hfresh g hv, hnh⟩
  have hnn : ∀ x, x < n → x ≠ n := fun x hx => Nat.ne_of_lt hx
  have hholds : ∀ p x, w'.Holds p x ↔ (p = n ∧ w.vars i = some x) ∨ (p ≠ n ∧ w.Holds p x) := by
    intro p x
    by_cases hp : p = n
    · subst hp; simp [Holds, hfr, Frame.wrapper, Life.isLive]
    · simp [Holds, hfr, hp]
  have hvar : ∀ j x, w'.vars j = some x → j ≠ i ∧ w.vars j = some x ∧ x < n ∧ w.vars i ≠ some x := by
    intro j x hj
    have hji : j ≠ i := by rintro rfl; simp [w'] at hj
    simp only [w', post_vars, assign_vars, Function.update_noteq hji, alloc_vars] at hj
    exact ⟨hji, hj, hi.var_lt j x hj, fun h => hji (hi.var_unique j i x hj h)⟩
  have hq : List.Perm (w'.sched.q ++ w'.pending) (n :: (w.sched.q ++ w.pending)) := by simp [w']
  have hnq : n ∉ w.sched.q ++ w.pending := fun h => Nat.lt_irrefl _ ((hi.queued n).1 h).1
  constructor
  · intro h hh
    have : n < h := by simp only [w', post_size, assign_size, alloc_size] at hh; omega
    rw [hfr, if_neg (Nat.ne_of_gt this)]; exact hi.blank h (Nat.le_of_lt this)
  · intro j x hj; exact (hlt x (hnn x (hvar j x hj).2.2.1)).2 (hvar j x hj).2.2.1
  · intro j k x hj hk; exact hi.var_unique j k x (hvar j x hj).2.1 (hvar k x hk).2.1
  · intro j x hj
    obtain ⟨-, hj, hx, hix⟩ := hvar j x hj
    obtain ⟨hk, hd, hl, hnh⟩ := hi.var_frame j x hj
    simp only [hfr, if_neg (hnn x hx), hholds]
    exact ⟨hk, hd, hl, fun p => by rintro (⟨-, h⟩ | ⟨-, h⟩) <;> [exact hix h; exact hnh p h]⟩
  · intro j x hj
    obtain ⟨-, hj, hx, -⟩ := hvar j x hj
    simpa [hfr, hnn x hx] using hi.var_fresh j x hj
  · intro p x hpx
    rcases (hholds p x).1 hpx with ⟨rfl, hv⟩ | ⟨hp, hpx⟩
    · obtain ⟨hx, hk, hd, hl, ha, -⟩ := hg x hv
      simp only [hfr, if_neg (hnn x hx), if_pos rfl]
      exact ⟨(hlt x (hnn x hx)).2 hx, hk, hd, .inl ⟨rfl, hl, ha⟩⟩
    · obtain ⟨hx, hk, hd, h⟩ := hi.param p x hpx
      simp only [hfr, if_neg (hnn x hx), if_neg hp]
      exact ⟨(hlt x (hnn x hx)).2 hx, hk, hd, h⟩
  · intro p p' x hp hp'
    rcases (hholds p x).1 hp with ⟨rfl, hv⟩ | ⟨hpn, hp⟩ <;>
      rcases (hholds p' x).1 hp' with ⟨rfl, hv'⟩ | ⟨hpn', hp'⟩
    · rfl
    · exact absurd hp' ((hg x hv).2.2.2.2.2 p')
    · exact absurd hp ((hg x hv').2.2.2.2.2 p)
    · exact hi.param_unique p p' x hp hp'
  · intro x hx hk hd hl
    by_cases hxn : x = n
    · subst hxn; simp [hfr, Frame.wrapper] at hk
    simp only [hfr, if_neg hxn] at hk hd hl
    by_cases hix : w.vars i = some x
    · exact .inr ⟨n, (hholds n x).2 (.inl ⟨rfl, hix⟩)⟩
    rcases hi.owned x ((hlt x hxn).1 hx) hk hd hl with ⟨j, hj⟩ | ⟨p, hp⟩
    · have hji : j ≠ i := by rintro rfl; exact hix hj
      exact .inl ⟨j, by simp [w', hji, hj]⟩
    · have hpn : p ≠ n := by
        rintro rfl; simp [Holds, hi.blank n (Nat.le_refl _), Frame.fresh] at hp
      exact .inr ⟨p, (hholds p x).2 (.inr ⟨hpn, hp⟩)⟩
  · intro x hx
    rw [hfr] at hx ⊢
    split_ifs at hx ⊢
    · simp [Frame.wrapper]
    · exact hi.self x hx
  · intro x t hx
    rw [hfr] at hx ⊢
    split_ifs at hx ⊢
    · simp [Frame.wrapper]
    · exact hi.wrapper_life x t hx
  · intro x c hx
    rw [hfr] at hx ⊢
    split_ifs at hx ⊢
    · simp [Frame.wrapper] at hx
    · exact hi.cause x c hx
  · intro x hx
    rw [hfr] at hx ⊢
    split_ifs at hx ⊢
    · simp [Frame.wrapper]
    · exact hi.fresh_cont x hx
  · intro x
    rw [hq.mem_iff, List.mem_cons, hi.queued, hfr]
    by_cases hxn : x = n
    · subst hxn; simp [w', Frame.wrapper]
    · simp only [hxn, if_false, false_or, hlt x hxn]
  · exact hq.nodup_iff.2 (List.nodup_cons.2 ⟨hnq, hi.nodup⟩)
  · intro x
    rw [hfr]
    split_ifs with hxn
    · subst hxn
      refine ⟨fun h => by simp [Frame.wrapper] at h, fun h => ?_⟩
      have := (hi.running _).2 (by simpa [w'] using h)
      simp [hi.blank _ (Nat.le_refl _), Frame.fresh] at this
    · exact hi.running x
  · intro c x hc
    rw [hfr] at hc
    split_ifs at hc with hcn
    · simp [Frame.wrapper] at hc
    · obtain ⟨h₁, h₂⟩ := hi.awaiting c x hc
      have hxn : x ≠ n := by
        rintro rfl; simp [hi.blank _ (Nat.le_refl _), Frame.fresh, Life.inFlight] at h₂
      simpa [hfr, hxn] using And.intro h₁ h₂
  · intro x c hx hf
    rw [hfr] at hx hf
    split_ifs at hx hf with hxn
    · simp [Frame.wrapper] at hx
    · have h := hi.cont x c hx hf
      have hcn : c ≠ n := by rintro rfl; simp [hi.blank _ (Nat.le_refl _), Frame.fresh] at h
      simpa [hfr, hcn] using h

/-! ## 走っているフレームの一歩 -/

/-- 走っているフレームは `task<T>` のフレームで、作られている。 -/
theorem Inv.running_frame {w : World} (hi : w.Inv) {f : Handle} (hc : w.cur = some f) :
    (w.frames f).life = .running ∧ (w.frames f).kind = .task ∧ f < w.size := by
  have hr := (hi.running f).2 hc
  refine ⟨hr, ?_, ?_⟩
  · cases hk : (w.frames f).kind with
    | task => rfl
    | detachedTask t => rcases hi.wrapper_life f t hk with h | ⟨_, _, h⟩ | ⟨_, h⟩ <;> simp [hr] at h
  · by_contra hge
    simp [hi.blank f (Nat.le_of_not_lt hge), Frame.fresh] at hr

/-- 走っているフレームが止まって producer かスケジューラにハンドルを渡し、ジョブが戻る。 -/
theorem Inv.park {w w' : World} (hi : w.Inv) {f : Handle} (hc : w.cur = some f)
    (hf : w'.frames = (w.setLife f .waiting).frames) (hs : w'.size = w.size)
    (hv : w'.vars = w.vars) (hcur : w'.cur = none)
    (hq : List.Perm (w'.sched.q ++ w'.pending) (f :: (w.sched.q ++ w.pending))) : w'.Inv := by
  obtain ⟨hr, hk, hlt⟩ := hi.running_frame hc
  have hfr : ∀ x, w'.frames x = if x = f then { w.frames f with life := .waiting } else w.frames x := by
    intro x; by_cases hx : x = f <;> simp [hf, hx]
  have hkind : ∀ x, (w'.frames x).kind = (w.frames x).kind := by
    intro x; rw [hfr]; split_ifs with hx <;> simp [hx]
  have hlive : ∀ x, (w'.frames x).life.isLive = (w.frames x).life.isLive := by
    intro x; rw [hfr]; split_ifs with hx <;> simp [hx, hr, Life.isLive]
  have hdet : ∀ x, (w'.frames x).detached = (w.frames x).detached := by
    intro x; rw [hfr]; split_ifs with hx <;> simp [hx]
  have hholds : ∀ p x, w'.Holds p x ↔ w.Holds p x := by simp [Holds, hkind, hlive]
  have hnq : f ∉ w.sched.q ++ w.pending := by simp [hi.queued, hr]
  constructor <;> try simp only [hs, hv, hholds, hcur]
  · intro h hh; rw [hfr, if_neg (Nat.ne_of_gt (Nat.lt_of_lt_of_le hlt hh))]; exact hi.blank h hh
  · exact hi.var_lt
  · exact hi.var_unique
  · intro j x hj; simpa only [hkind, hlive, hdet] using hi.var_frame j x hj
  · intro j x hj ha
    rw [hfr] at ha ⊢
    split_ifs at ha ⊢ with hx
    · subst hx; simpa [hr] using hi.var_fresh j _ hj ha
    · exact hi.var_fresh j x hj ha
  · intro p x hpx
    obtain ⟨hx, hk', hd, h⟩ := hi.param p x hpx
    have hp : p ≠ f := by rintro rfl; simp [Holds, hk] at hpx
    refine ⟨hx, by rw [hkind]; exact hk', by rw [hdet]; exact hd, ?_⟩
    rw [hfr, hfr, if_neg hp]
    split_ifs with hxf
    · subst hxf; simpa [hr] using h
    · exact h
  · exact hi.param_unique
  · intro x hx hk' hd hl
    rw [hkind] at hk'; rw [hlive] at hl; rw [hdet] at hd
    exact hi.owned x hx hk' hd hl
  · intro x hx
    rw [hfr] at hx ⊢
    split_ifs at hx ⊢ with hxf
    · subst hxf
      have h := hi.self x (by simpa using hx)
      simp [h.1, h.2.1]
    · exact hi.self x hx
  · intro x t hx
    rw [hfr] at hx ⊢
    split_ifs at hx ⊢ with hxf
    · subst hxf; simp [hk] at hx
    · exact hi.wrapper_life x t hx
  · intro x c hx
    rw [hfr] at hx ⊢
    split_ifs at hx ⊢ with hxf
    exact hi.cause x c hx
  · intro x hx
    rw [hfr] at hx ⊢
    split_ifs at hx ⊢ with hxf
    · subst hxf; simpa using hi.fresh_cont x (.inl (by simpa using hx))
    · exact hi.fresh_cont x hx
  · intro x
    rw [hq.mem_iff, List.mem_cons, hi.queued, hfr]
    by_cases hxf : x = f
    · subst hxf; simp [hs, hlt]
    · simp [hxf, hs]
  · exact hq.nodup_iff.2 (List.nodup_cons.2 ⟨hnq, hi.nodup⟩)
  · intro x
    rw [hfr]
    split_ifs with hxf
    · simp
    · rw [hi.running x, hc]; simpa using Ne.symm hxf
  · intro c x hc'
    rw [hfr] at hc'
    split_ifs at hc' with hcf
    obtain ⟨h₁, h₂⟩ := hi.awaiting c x hc'
    rw [hfr]; split_ifs with hxf
    · subst hxf; simpa [Life.inFlight] using h₁
    · exact ⟨h₁, h₂⟩
  · intro x c hx hfl
    have hcf : ∀ y, (w.frames y).life = .awaiting x → y ≠ f := by
      rintro y h rfl; simp [hr] at h
    rw [hfr] at hx hfl
    split_ifs at hx hfl with hxf
    · subst hxf
      have h := hi.cont x c (by simpa using hx) (by simp [hr, Life.inFlight])
      rw [hfr, if_neg (hcf c h)]; exact h
    · have h := hi.cont x c hx hfl
      rw [hfr, if_neg (hcf c h)]; exact h

/-! ## `co_await` で止まって部分タスクへ移る -/

/-- `a` が `g` を `co_await` して止まり、`g` が走り出した世界。 -/
def handoff (w : World) (a g : Handle) : World :=
  { ((w.modify g fun fr => { fr with continuation := some a, awaited := true }).setLife a
    (.awaiting g)).setLife g .running with cur := some g }

theorem coAwait_initial {w : World} {a g : Handle} (k : World → Except Fault World)
    (hg : (w.frames g).life = .initial) (hag : a ≠ g) :
    w.coAwait a (some g) k = .ok (w.handoff a g) := by
  simp [coAwait, hg, resumeTask, Function.update_noteq (Ne.symm hag), handoff]

theorem handoff_frames {w : World} {a g : Handle} (hag : a ≠ g) (x : Handle) :
    (w.handoff a g).frames x = if x = g then
      { w.frames g with continuation := some a, awaited := true, life := .running }
      else if x = a then { w.frames a with life := .awaiting g } else w.frames x := by
  by_cases hxg : x = g
  · subst hxg; simp [handoff, Function.update_noteq (Ne.symm hag)]
  · by_cases hxa : x = a
    · subst hxa; simp [handoff, hxg]
    · simp [handoff, hxg, hxa]

/-- 走っているフレームか、キューの先頭から取り出された `make_detached` のフレーム `a` が、作られた
ばかりのフレーム `g` を `co_await` して止まり、`g` へ移る。 -/
theorem Inv.transfer {w w' : World} (hi : w.Inv) {a g : Handle}
    (ha : ((w.frames a).life = .running ∧ w.cur = some a) ∨
      ((w.frames a).life = .initial ∧ (w.frames a).kind = .detachedTask (some g) ∧ w.cur = none))
    (hg : g < w.size) (hgk : (w.frames g).kind = .task) (hgd : (w.frames g).detached = false)
    (hgl : (w.frames g).life = .initial) (hga : (w.frames g).awaited = false)
    (hgp : ∀ p, w.Holds p g → p = a)
    (hf : w'.frames = (w.handoff a g).frames) (hs : w'.size = w.size) (hv : w'.vars = w.vars)
    (hcur : w'.cur = some g)
    (hq : ∀ x, x ∈ w'.sched.q ++ w'.pending ↔ x ∈ w.sched.q ++ w.pending ∧ x ≠ a)
    (hnd : (w'.sched.q ++ w'.pending).Nodup) : w'.Inv := by
  have hag : a ≠ g := by rintro rfl; rcases ha with ⟨h, -⟩ | ⟨-, h, -⟩ <;> simp [hgl, hgk] at h
  have hal : a < w.size := by
    by_contra hge
    rcases ha with ⟨h, -⟩ | ⟨-, h, -⟩ <;> simp [hi.blank a (Nat.le_of_not_lt hge), Frame.fresh] at h
  have hfr : ∀ x, w'.frames x = if x = g then
      { w.frames g with continuation := some a, awaited := true, life := .running }
      else if x = a then { w.frames a with life := .awaiting g } else w.frames x :=
    fun x => by rw [hf]; exact handoff_frames hag x
  have hfg : w'.frames g = { w.frames g with continuation := some a, awaited := true, life := .running } := by
    simp [hfr]
  have hfa : w'.frames a = { w.frames a with life := .awaiting g } := by simp [hfr, hag]
  have hfo : ∀ x, x ≠ g → x ≠ a → w'.frames x = w.frames x := by
    intro x h₁ h₂; simp [hfr, h₁, h₂]
  have hkind : ∀ x, (w'.frames x).kind = (w.frames x).kind := by
    intro x; rw [hfr]; split_ifs <;> subst_vars <;> rfl
  have hdet : ∀ x, (w'.frames x).detached = (w.frames x).detached := by
    intro x; rw [hfr]; split_ifs <;> subst_vars <;> rfl
  -- `a` が `make_detached` のフレームなら、走ってはいない
  have hwrap : ∀ t, (w.frames a).kind = .detachedTask t →
      (w.frames a).life = .initial ∧ w.cur = none ∧ t = some g := by
    intro t ht
    rcases ha with ⟨h, -⟩ | ⟨h, hk, hc⟩
    · rcases hi.wrapper_life a t ht with h' | ⟨_, _, h'⟩ | ⟨_, h'⟩ <;> simp [h] at h'
    · exact ⟨h, hc, Kind.detachedTask.inj (ht.symm.trans hk)⟩
  have halive : (w.frames a).life.isLive := by rcases ha with ⟨h, -⟩ | ⟨h, -⟩ <;> simp [h, Life.isLive]
  have hlive : ∀ x, (w'.frames x).life.isLive = (w.frames x).life.isLive := by
    intro x; rw [hfr]; split_ifs with h₁ h₂
    · simp [h₁, hgl, Life.isLive]
    · subst h₂; simpa [Life.isLive] using halive.symm
    · rfl
  have hholds : ∀ p x, w'.Holds p x ↔ w.Holds p x := by simp [Holds, hkind, hlive]
  constructor <;> try simp only [hs, hv, hholds, hcur]
  · intro h hh
    rw [hfr, if_neg (Nat.ne_of_gt (Nat.lt_of_lt_of_le hg hh)),
      if_neg (Nat.ne_of_gt (Nat.lt_of_lt_of_le hal hh))]
    exact hi.blank h hh
  · exact hi.var_lt
  · exact hi.var_unique
  · intro j x hj; simpa only [hkind, hlive, hdet] using hi.var_frame j x hj
  · intro j x hj hx
    by_cases h₁ : x = g
    · rw [hfr, if_pos h₁] at hx; simp at hx
    by_cases h₂ : x = a
    · rw [hfr, if_neg h₁, if_pos h₂] at hx; subst h₂
      rcases ha with ⟨h, -⟩ | ⟨-, h, -⟩
      · simp [hi.var_fresh j x hj hx] at h
      · simp [(hi.var_frame j x hj).1] at h
    · rw [hfr, if_neg h₁, if_neg h₂] at hx ⊢; exact hi.var_fresh j x hj hx
  · intro p x hpx
    obtain ⟨hx, hk, hd, h⟩ := hi.param p x hpx
    have hpg : p ≠ g := by rintro rfl; simp [Holds, hgk] at hpx
    refine ⟨hx, by rw [hkind]; exact hk, by rw [hdet]; exact hd, ?_⟩
    by_cases hpa : p = a
    · subst hpa
      obtain ⟨-, -, hxg⟩ := hwrap _ hpx.1
      cases hxg
      right; simp [hfr, hag]
    · rw [hfr p, if_neg hpg, if_neg hpa]
      have hxg : x ≠ g := fun hxg => hpa (hgp p (hxg ▸ hpx))
      rw [hfr x, if_neg hxg]
      split_ifs with hxa
      · subst hxa
        rcases h with ⟨-, h', -⟩ | h'
        · rcases ha with ⟨h, -⟩ | ⟨-, h, -⟩
          · simp [h] at h'
          · simp [hk] at h
        · exact .inr h'
      · exact h
  · exact hi.param_unique
  · intro x hx hk hd hl
    rw [hkind] at hk; rw [hlive] at hl; rw [hdet] at hd
    exact hi.owned x hx hk hd hl
  · intro x hx
    by_cases h₁ : x = g
    · subst h₁; rw [hfg] at hx; simp [hgk, hgd] at hx
    by_cases h₂ : x = a
    · subst h₂; rw [hfa] at hx ⊢
      have h := hi.self x hx
      simp [h.1, h.2.1]
    · rw [hfo x h₁ h₂] at hx ⊢; exact hi.self x hx
  · intro x t hx
    by_cases h₁ : x = g
    · subst h₁; rw [hfg] at hx; simp [hgk] at hx
    by_cases h₂ : x = a
    · subst h₂; rw [hfa] at hx ⊢
      obtain ⟨-, -, rfl⟩ := hwrap t hx
      exact .inr (.inl ⟨g, rfl, rfl⟩)
    · rw [hfo x h₁ h₂] at hx ⊢; exact hi.wrapper_life x t hx
  · intro x c hx
    by_cases h₁ : x = g
    · subst h₁; rw [hfg] at hx; simp at hx
    by_cases h₂ : x = a
    · subst h₂; rw [hfa] at hx; simp at hx
    · rw [hfo x h₁ h₂] at hx ⊢; exact hi.cause x c hx
  · intro x hx
    by_cases h₁ : x = g
    · subst h₁; rw [hfg] at hx; simp at hx
    by_cases h₂ : x = a
    · subst h₂; rw [hfa] at hx ⊢; exact hi.fresh_cont x (.inl (by simpa using hx))
    · rw [hfo x h₁ h₂] at hx ⊢; exact hi.fresh_cont x hx
  · intro x
    rw [hq, hi.queued]
    by_cases h₁ : x = g
    · subst h₁; simp [hfg, hgl, hgd, hgk, hga, hag]
    by_cases h₂ : x = a
    · subst h₂; simp [hfa]
    · simp [hfo x h₁ h₂, h₂]
  · exact hnd
  · intro x
    by_cases h₁ : x = g
    · subst h₁; simp [hfg]
    by_cases h₂ : x = a
    · subst h₂; simp [hfa, Ne.symm hag]
    · rw [hfo x h₁ h₂, hi.running x]
      constructor
      · intro h
        rcases ha with ⟨-, h'⟩ | ⟨-, -, h'⟩ <;> rw [h'] at h
        · exact absurd (Option.some.inj h) (Ne.symm h₂)
        · simp at h
      · intro h; exact absurd (Option.some.inj h) (Ne.symm h₁)
  · intro c x hc
    by_cases h₁ : c = g
    · subst h₁; rw [hfg] at hc; simp at hc
    by_cases h₂ : c = a
    · subst h₂; rw [hfa] at hc; simp at hc; subst hc; simp [hfg, Life.inFlight]
    · rw [hfo c h₁ h₂] at hc
      obtain ⟨hcx, hxf⟩ := hi.awaiting c x hc
      have hxg : x ≠ g := by rintro rfl; simp [hgl, Life.inFlight] at hxf
      by_cases hxa : x = a
      · subst hxa; rw [hfa]; simpa [Life.inFlight] using hcx
      · rw [hfo x hxg hxa]; exact ⟨hcx, hxf⟩
  · intro x c hx hfl
    by_cases h₁ : x = g
    · subst h₁; rw [hfg] at hx; simp at hx; subst hx; simp [hfa]
    -- `x` は前の世界でも止まっているか走っていて、`c` は `x` を待っている
    have hold : (w.frames x).continuation = some c ∧ (w.frames x).life.inFlight := by
      by_cases h₂ : x = a
      · subst h₂; rw [hfa] at hx
        refine ⟨hx, ?_⟩
        rcases ha with ⟨h, -⟩ | ⟨-, hk, -⟩
        · simp [h, Life.inFlight]
        · simp [(hi.self x (.inr (by simp [hk]))).1] at hx
      · rw [hfo x h₁ h₂] at hx hfl; exact ⟨hx, hfl⟩
    have hc := hi.cont x c hold.1 hold.2
    have hcg : c ≠ g := by rintro rfl; simp [hgl] at hc
    have hca : c ≠ a := by
      rintro rfl; rcases ha with ⟨h, -⟩ | ⟨h, -⟩ <;> simp [h] at hc
    rw [hfo c hcg hca]; exact hc

/-! ## 本体の終わり -/

/-- 走っているフレームの持ち主：待たれていれば変数か `make_detached` の引数が持ち、待っている
ものは `continuation` にいる。 -/
theorem Inv.running_owner {w : World} (hi : w.Inv) {f : Handle} (hc : w.cur = some f)
    (hd : (w.frames f).detached = false) :
    ((∃ i, w.vars i = some f) ∧ ∀ p, ¬ w.Holds p f) ∨
      ∃ p, w.Holds p f ∧ (w.frames f).continuation = some p := by
  obtain ⟨hr, hk, hlt⟩ := hi.running_frame hc
  rcases hi.owned f hlt hk hd (by simp [hr, Life.isLive]) with ⟨i, hi'⟩ | ⟨p, hp⟩
  · exact .inl ⟨⟨i, hi'⟩, (hi.var_frame i f hi').2.2.2⟩
  · refine .inr ⟨p, hp, ?_⟩
    rcases (hi.param p f hp).2.2.2 with ⟨-, h, -⟩ | h
    · simp [hr] at h
    · exact (hi.awaiting p f h).1

/-- 待つもののない、切り離されていないフレームが本体を抜けた：`final_suspend` で止まったまま、
ジョブが戻る。 -/
theorem Inv.finish_idle {w w' : World} (hi : w.Inv) {f : Handle} (hc : w.cur = some f)
    (hcont : (w.frames f).continuation = none) (hd : (w.frames f).detached = false)
    (hf : w'.frames = (w.setLife f .final).frames) (hs : w'.size = w.size) (hv : w'.vars = w.vars)
    (hcur : w'.cur = none) (hsq : w'.sched = w.sched) (hp : w'.pending = w.pending) : w'.Inv := by
  obtain ⟨hr, hk, hlt⟩ := hi.running_frame hc
  have hnp : ∀ p, ¬ w.Holds p f := by
    rcases hi.running_owner hc hd with ⟨-, h⟩ | ⟨p, -, h⟩
    · exact h
    · simp [hcont] at h
  have hff : w'.frames f = { w.frames f with life := .final } := by simp [hf]
  have hfo : ∀ x, x ≠ f → w'.frames x = w.frames x := by intro x hx; simp [hf, hx]
  have hholds : ∀ p x, w'.Holds p x ↔ w.Holds p x := by
    intro p x
    by_cases hp : p = f
    · subst hp; simp [Holds, hff, hk]
    · simp only [Holds, hfo p hp]
  have hnaw : ∀ c, (w.frames c).life ≠ .awaiting f := by
    intro c h; simp [(hi.awaiting c f h).1] at hcont
  constructor <;> try simp only [hholds, hs, hv, hcur, hsq, hp]
  · intro h hh; rw [hfo h (Nat.ne_of_gt (Nat.lt_of_lt_of_le hlt hh))]; exact hi.blank h hh
  · exact hi.var_lt
  · exact hi.var_unique
  · intro j x hj
    by_cases hx : x = f
    · subst hx; rw [hff]
      obtain ⟨h₁, h₂, -, h₄⟩ := hi.var_frame j x hj
      exact ⟨h₁, h₂, rfl, h₄⟩
    · rw [hfo x hx]; exact hi.var_frame j x hj
  · intro j x hj ha
    by_cases hx : x = f
    · subst hx; rw [hff] at ha; simpa [hr] using hi.var_fresh j x hj ha
    · rw [hfo x hx] at ha ⊢; exact hi.var_fresh j x hj ha
  · intro p x hpx
    have hxf : x ≠ f := by rintro rfl; exact hnp p hpx
    have hpf : p ≠ f := by rintro rfl; simp [Holds, hk] at hpx
    rw [hfo x hxf, hfo p hpf]; exact hi.param p x hpx
  · exact hi.param_unique
  · intro x hx hk' hd' hl'
    by_cases hxf : x = f
    · subst hxf
      rcases hi.running_owner hc hd with ⟨⟨i, hi'⟩, -⟩ | ⟨p, hp, -⟩
      · exact .inl ⟨i, hi'⟩
      · exact absurd hp (hnp p)
    · rw [hfo x hxf] at hk' hd' hl'; exact hi.owned x hx hk' hd' hl'
  · intro x hx
    by_cases hxf : x = f
    · subst hxf; rw [hff] at hx; simp [hd, hk] at hx
    · rw [hfo x hxf] at hx ⊢; exact hi.self x hx
  · intro x t hx
    by_cases hxf : x = f
    · subst hxf; rw [hff] at hx; simp [hk] at hx
    · rw [hfo x hxf] at hx ⊢; exact hi.wrapper_life x t hx
  · intro x c hx
    by_cases hxf : x = f
    · subst hxf; rw [hff] at hx; simp at hx
    · rw [hfo x hxf] at hx ⊢; exact hi.cause x c hx
  · intro x hx
    by_cases hxf : x = f
    · subst hxf; simp [hff, hcont]
    · rw [hfo x hxf] at hx ⊢; exact hi.fresh_cont x hx
  · intro x
    rw [hi.queued]
    by_cases hxf : x = f
    · subst hxf; simp [hff, hr]
    · simp [hfo x hxf]
  · exact hi.nodup
  · intro x
    by_cases hxf : x = f
    · subst hxf; simp [hff]
    · rw [hfo x hxf, hi.running x, hc]; simpa using Ne.symm hxf
  · intro c x hc'
    have hcf : c ≠ f := by rintro rfl; simp [hff] at hc'
    rw [hfo c hcf] at hc'
    have hxf : x ≠ f := by rintro rfl; exact hnaw c hc'
    rw [hfo x hxf]; exact hi.awaiting c x hc'
  · intro x c hx hfl
    have hxf : x ≠ f := by rintro rfl; simp [hff, Life.inFlight] at hfl
    rw [hfo x hxf] at hx hfl
    have h := hi.cont x c hx hfl
    have hcf : c ≠ f := by rintro rfl; simp [hr] at h
    rw [hfo c hcf]; exact h

/-- 切り離されたフレームが本体を抜けた：自分の `final_awaiter` が自分を壊し、ジョブが戻る。 -/
theorem Inv.finish_detached {w w' : World} (hi : w.Inv) {f : Handle} (hc : w.cur = some f)
    (hd : (w.frames f).detached = true)
    (hf : w'.frames = (w.setLife f (.destroyed .finalAwaiter)).frames) (hs : w'.size = w.size)
    (hv : w'.vars = w.vars) (hcur : w'.cur = none) (hsq : w'.sched = w.sched)
    (hp : w'.pending = w.pending) : w'.Inv := by
  obtain ⟨hr, hk, hlt⟩ := hi.running_frame hc
  obtain ⟨hcont, hfa, -⟩ := hi.self f (.inl hd)
  have hff : w'.frames f = { w.frames f with life := .destroyed .finalAwaiter } := by simp [hf]
  have hfo : ∀ x, x ≠ f → w'.frames x = w.frames x := by intro x hx; simp [hf, hx]
  have hholds : ∀ p x, w'.Holds p x ↔ w.Holds p x := by
    intro p x
    by_cases hp : p = f
    · subst hp; simp [Holds, hff, hk]
    · simp only [Holds, hfo p hp]
  have hnv : ∀ j, w.vars j ≠ some f := fun j h => by simp [(hi.var_frame j f h).2.1] at hd
  have hnp : ∀ p, ¬ w.Holds p f := fun p h => by simp [(hi.param p f h).2.2.1] at hd
  have hnaw : ∀ c, (w.frames c).life ≠ .awaiting f := by
    intro c h; simp [(hi.awaiting c f h).1] at hcont
  constructor <;> try simp only [hholds, hs, hv, hcur, hsq, hp]
  · intro h hh; rw [hfo h (Nat.ne_of_gt (Nat.lt_of_lt_of_le hlt hh))]; exact hi.blank h hh
  · exact hi.var_lt
  · exact hi.var_unique
  · intro j x hj
    have hx : x ≠ f := by rintro rfl; exact hnv j hj
    rw [hfo x hx]; exact hi.var_frame j x hj
  · intro j x hj
    have hx : x ≠ f := by rintro rfl; exact hnv j hj
    rw [hfo x hx]; exact hi.var_fresh j x hj
  · intro p x hpx
    have hxf : x ≠ f := by rintro rfl; exact hnp p hpx
    have hpf : p ≠ f := by rintro rfl; simp [Holds, hk] at hpx
    rw [hfo x hxf, hfo p hpf]; exact hi.param p x hpx
  · exact hi.param_unique
  · intro x hx hk' hd' hl'
    have hxf : x ≠ f := by rintro rfl; simp [hff, hd] at hd'
    rw [hfo x hxf] at hk' hd' hl'; exact hi.owned x hx hk' hd' hl'
  · intro x hx
    by_cases hxf : x = f
    · subst hxf; simp [hff, hcont, hfa]
    · rw [hfo x hxf] at hx ⊢; exact hi.self x hx
  · intro x t hx
    by_cases hxf : x = f
    · subst hxf; rw [hff] at hx; simp [hk] at hx
    · rw [hfo x hxf] at hx ⊢; exact hi.wrapper_life x t hx
  · intro x c hx
    by_cases hxf : x = f
    · subst hxf; rw [hff] at hx; simp at hx; subst hx; simp [hff, hd]
    · rw [hfo x hxf] at hx ⊢; exact hi.cause x c hx
  · intro x hx
    by_cases hxf : x = f
    · subst hxf; simp [hff, hcont]
    · rw [hfo x hxf] at hx ⊢; exact hi.fresh_cont x hx
  · intro x
    rw [hi.queued]
    by_cases hxf : x = f
    · subst hxf; simp [hff, hr]
    · simp [hfo x hxf]
  · exact hi.nodup
  · intro x
    by_cases hxf : x = f
    · subst hxf; simp [hff]
    · rw [hfo x hxf, hi.running x, hc]; simpa using Ne.symm hxf
  · intro c x hc'
    have hcf : c ≠ f := by rintro rfl; simp [hff] at hc'
    rw [hfo c hcf] at hc'
    have hxf : x ≠ f := by rintro rfl; exact hnaw c hc'
    rw [hfo x hxf]; exact hi.awaiting c x hc'
  · intro x c hx hfl
    have hxf : x ≠ f := by rintro rfl; simp [hff, Life.inFlight] at hfl
    rw [hfo x hxf] at hx hfl
    have h := hi.cont x c hx hfl
    have hcf : c ≠ f := by rintro rfl; simp [hr] at h
    rw [hfo c hcf]; exact h

/-- `continuation` の `task<T>` のフレーム `c` へ移る：`f` は `final_suspend` で止まり、`c` が走る。 -/
theorem Inv.finish_resume {w w' : World} (hi : w.Inv) {f c : Handle} (hc : w.cur = some f)
    (hcont : (w.frames f).continuation = some c) (hck : (w.frames c).kind = .task)
    (hf : w'.frames = ((w.setLife f .final).setLife c .running).frames) (hs : w'.size = w.size)
    (hv : w'.vars = w.vars) (hcur : w'.cur = some c) (hsq : w'.sched = w.sched)
    (hp : w'.pending = w.pending) : w'.Inv := by
  obtain ⟨hr, hk, hlt⟩ := hi.running_frame hc
  have hcl : (w.frames c).life = .awaiting f := hi.cont f c hcont (by simp [hr, Life.inFlight])
  have hcf : c ≠ f := by rintro rfl; simp [hr] at hcl
  have hd : (w.frames f).detached = false := by
    cases h : (w.frames f).detached
    · rfl
    · simp [(hi.self f (.inl h)).1] at hcont
  have hnp : ∀ p, ¬ w.Holds p f := by
    rcases hi.running_owner hc hd with ⟨-, h⟩ | ⟨p, hp, h⟩
    · exact h
    · rw [hcont] at h; cases h; simp [Holds, hck] at hp
  have hclt : c < w.size := by
    by_contra hge; simp [hi.blank c (Nat.le_of_not_lt hge), Frame.fresh] at hcl
  have hff : w'.frames f = { w.frames f with life := .final } := by
    simp [hf, Function.update_noteq (Ne.symm hcf)]
  have hfc : w'.frames c = { w.frames c with life := .running } := by
    simp [hf, Function.update_noteq hcf]
  have hfo : ∀ x, x ≠ f → x ≠ c → w'.frames x = w.frames x := by
    intro x h₁ h₂; simp [hf, h₁, h₂]
  have hholds : ∀ p x, w'.Holds p x ↔ w.Holds p x := by
    intro p x
    by_cases h₁ : p = f
    · subst h₁; simp [Holds, hff, hk]
    by_cases h₂ : p = c
    · subst h₂; simp [Holds, hfc, hck]
    · simp only [Holds, hfo p h₁ h₂]
  -- `c` を待つものがいればそのまま、`f` を待つのは `c` だけ
  have hawf : ∀ d, (w.frames d).life = .awaiting f → d = c := by
    intro d h; exact Option.some.inj ((hi.awaiting d f h).1.symm.trans hcont)
  constructor <;> try simp only [hholds, hs, hv, hcur, hsq, hp]
  · intro h hh
    rw [hfo h (Nat.ne_of_gt (Nat.lt_of_lt_of_le hlt hh)) (Nat.ne_of_gt (Nat.lt_of_lt_of_le hclt hh))]
    exact hi.blank h hh
  · exact hi.var_lt
  · exact hi.var_unique
  · intro j x hj
    obtain ⟨h₁, h₂, h₃, h₄⟩ := hi.var_frame j x hj
    by_cases hxf : x = f
    · subst hxf; rw [hff]; exact ⟨h₁, h₂, rfl, h₄⟩
    by_cases hxc : x = c
    · subst hxc; rw [hfc]; exact ⟨h₁, h₂, rfl, h₄⟩
    · rw [hfo x hxf hxc]; exact ⟨h₁, h₂, h₃, h₄⟩
  · intro j x hj ha
    by_cases hxf : x = f
    · subst hxf; rw [hff] at ha; simpa [hr] using hi.var_fresh j x hj ha
    by_cases hxc : x = c
    · subst hxc; rw [hfc] at ha; simpa [hcl] using hi.var_fresh j x hj ha
    · rw [hfo x hxf hxc] at ha ⊢; exact hi.var_fresh j x hj ha
  · intro p x hpx
    obtain ⟨hx, hk', hd', h⟩ := hi.param p x hpx
    have hxf : x ≠ f := by rintro rfl; exact hnp p hpx
    have hpf : p ≠ f := by rintro rfl; simp [Holds, hk] at hpx
    have hpc : p ≠ c := by rintro rfl; simp [Holds, hck] at hpx
    rw [hfo p hpf hpc]
    by_cases hxc : x = c
    · subst hxc; rw [hfc]
      rcases h with ⟨-, h, -⟩ | h
      · simp [hcl] at h
      · exact ⟨hx, hk', hd', .inr h⟩
    · rw [hfo x hxf hxc]; exact ⟨hx, hk', hd', h⟩
  · exact hi.param_unique
  · intro x hx hk' hd' hl'
    by_cases hxf : x = f
    · subst hxf; rw [hff] at hk' hd'; exact hi.owned x hx hk' hd' (by simp [hr, Life.isLive])
    by_cases hxc : x = c
    · subst hxc; rw [hfc] at hk' hd'; exact hi.owned x hx hk' hd' (by simp [hcl, Life.isLive])
    · rw [hfo x hxf hxc] at hk' hd' hl'; exact hi.owned x hx hk' hd' hl'
  · intro x hx
    by_cases hxf : x = f
    · subst hxf; rw [hff] at hx; simp [hd, hk] at hx
    by_cases hxc : x = c
    · subst hxc; rw [hfc] at hx ⊢
      have h := hi.self x hx
      simp [h.1, h.2.1]
    · rw [hfo x hxf hxc] at hx ⊢; exact hi.self x hx
  · intro x t hx
    by_cases hxf : x = f
    · subst hxf; rw [hff] at hx; simp [hk] at hx
    by_cases hxc : x = c
    · subst hxc; rw [hfc] at hx; simp [hck] at hx
    · rw [hfo x hxf hxc] at hx ⊢; exact hi.wrapper_life x t hx
  · intro x d hx
    by_cases hxf : x = f
    · subst hxf; rw [hff] at hx; simp at hx
    by_cases hxc : x = c
    · subst hxc; rw [hfc] at hx; simp at hx
    · rw [hfo x hxf hxc] at hx ⊢; exact hi.cause x d hx
  · intro x hx
    by_cases hxf : x = f
    · subst hxf; rw [hff] at hx ⊢; exact hi.fresh_cont x (.inl (by simpa using hx))
    by_cases hxc : x = c
    · subst hxc; rw [hfc] at hx ⊢; exact hi.fresh_cont x (.inl (by simpa using hx))
    · rw [hfo x hxf hxc] at hx ⊢; exact hi.fresh_cont x hx
  · intro x
    rw [hi.queued]
    by_cases hxf : x = f
    · subst hxf; simp [hff, hr]
    by_cases hxc : x = c
    · subst hxc; simp [hfc, hcl]
    · simp [hfo x hxf hxc]
  · exact hi.nodup
  · intro x
    by_cases hxf : x = f
    · subst hxf; simp [hff, hcf]
    by_cases hxc : x = c
    · subst hxc; simp [hfc]
    · rw [hfo x hxf hxc, hi.running x, hc]; simp [Ne.symm hxf, Ne.symm hxc]
  · intro d x hd'
    have hdf : d ≠ f := by rintro rfl; simp [hff] at hd'
    have hdc : d ≠ c := by rintro rfl; simp [hfc] at hd'
    rw [hfo d hdf hdc] at hd'
    obtain ⟨h₁, h₂⟩ := hi.awaiting d x hd'
    have hxf : x ≠ f := by rintro rfl; exact hdc (hawf d hd')
    by_cases hxc : x = c
    · subst hxc; rw [hfc]; exact ⟨h₁, rfl⟩
    · rw [hfo x hxf hxc]; exact ⟨h₁, h₂⟩
  · intro x d hx hfl
    have hxf : x ≠ f := by rintro rfl; simp [hff, Life.inFlight] at hfl
    have hold : (w.frames x).continuation = some d ∧ (w.frames x).life.inFlight := by
      by_cases hxc : x = c
      · subst hxc; rw [hfc] at hx; exact ⟨hx, by simp [hcl, Life.inFlight]⟩
      · rw [hfo x hxf hxc] at hx hfl; exact ⟨hx, hfl⟩
    have h := hi.cont x d hold.1 hold.2
    have hdf : d ≠ f := by rintro rfl; simp [hr] at h
    have hdc : d ≠ c := by rintro rfl; rw [hcl] at h; cases h; exact hxf rfl
    rw [hfo d hdf hdc]; exact h

/-- `continuation` が `make_detached` のフレーム `c` のとき：`c` は `co_await` から戻って本体を抜け、
自分の `final_awaiter` で壊れ、その引数のタスク値が `f` を壊す。ジョブが戻る。 -/
theorem Inv.finish_wrapper {w w' : World} (hi : w.Inv) {f c : Handle} (hc : w.cur = some f)
    (hcont : (w.frames f).continuation = some c) {t : Option Handle}
    (hck : (w.frames c).kind = .detachedTask t)
    (hf : w'.frames = ((w.setLife c (.destroyed .finalAwaiter)).setLife f (.destroyed .owner)).frames)
    (hs : w'.size = w.size) (hv : w'.vars = w.vars) (hcur : w'.cur = none)
    (hsq : w'.sched = w.sched) (hp : w'.pending = w.pending) : w'.Inv := by
  obtain ⟨hr, hk, hlt⟩ := hi.running_frame hc
  have hcl : (w.frames c).life = .awaiting f := hi.cont f c hcont (by simp [hr, Life.inFlight])
  have hcf : c ≠ f := by rintro rfl; simp [hr] at hcl
  have hholds_cf : w.Holds c f := by
    refine ⟨?_, by simp [hcl, Life.isLive]⟩
    rcases hi.wrapper_life c t hck with h | ⟨g, rfl, h⟩ | ⟨_, h⟩ <;> rw [hcl] at h
    · cases h
    · cases h; exact hck
    · cases h
  obtain ⟨-, -, hd, -⟩ := hi.param c f hholds_cf
  have hnv : ∀ j, w.vars j ≠ some f := fun j h => (hi.var_frame j f h).2.2.2 c hholds_cf
  have hnvc : ∀ j, w.vars j ≠ some c := fun j h => by simp [(hi.var_frame j c h).1] at hck
  have hclt : c < w.size := by
    by_contra hge; simp [hi.blank c (Nat.le_of_not_lt hge), Frame.fresh] at hcl
  have hff : w'.frames f = { w.frames f with life := .destroyed .owner } := by
    simp [hf, Function.update_noteq (Ne.symm hcf)]
  have hfc : w'.frames c = { w.frames c with life := .destroyed .finalAwaiter } := by
    simp [hf, Function.update_noteq hcf]
  have hfo : ∀ x, x ≠ f → x ≠ c → w'.frames x = w.frames x := by
    intro x h₁ h₂; simp [hf, h₁, h₂]
  have hholds : ∀ p x, w'.Holds p x ↔ p ≠ c ∧ w.Holds p x := by
    intro p x
    by_cases h₁ : p = f
    · subst h₁; simp [Holds, hff, hk]
    by_cases h₂ : p = c
    · subst h₂; simp only [Holds, hfc, Life.isLive]; simp
    · simp only [Holds, hfo p h₁ h₂, ne_eq, h₂, not_false_eq_true, true_and]
  -- `c` を待つものはなく、`f` を待つのは `c` だけ
  have hawc : ∀ d, (w.frames d).life ≠ .awaiting c := by
    intro d h
    have h₁ := (hi.awaiting d c h).1
    rw [(hi.self c (.inr (by simp [hck]))).1] at h₁
    cases h₁
  have hawf : ∀ d, (w.frames d).life = .awaiting f → d = c := by
    intro d h; exact Option.some.inj ((hi.awaiting d f h).1.symm.trans hcont)
  constructor <;> try simp only [hs, hv, hcur, hsq, hp]
  · intro h hh
    rw [hfo h (Nat.ne_of_gt (Nat.lt_of_lt_of_le hlt hh)) (Nat.ne_of_gt (Nat.lt_of_lt_of_le hclt hh))]
    exact hi.blank h hh
  · exact hi.var_lt
  · exact hi.var_unique
  · intro j x hj
    have hxf : x ≠ f := by rintro rfl; exact hnv j hj
    have hxc : x ≠ c := by rintro rfl; exact hnvc j hj
    obtain ⟨h₁, h₂, h₃, h₄⟩ := hi.var_frame j x hj
    rw [hfo x hxf hxc]
    exact ⟨h₁, h₂, h₃, fun p h => h₄ p ((hholds p x).1 h).2⟩
  · intro j x hj
    have hxf : x ≠ f := by rintro rfl; exact hnv j hj
    have hxc : x ≠ c := by rintro rfl; exact hnvc j hj
    rw [hfo x hxf hxc]; exact hi.var_fresh j x hj
  · intro p x hpx
    obtain ⟨hpc, hpx⟩ := (hholds p x).1 hpx
    have hxf : x ≠ f := by rintro rfl; exact hpc (hi.param_unique p c x hpx hholds_cf)
    have hxc : x ≠ c := by rintro rfl; simp [(hi.param p x hpx).2.1] at hck
    have hpf : p ≠ f := by rintro rfl; simp [Holds, hk] at hpx
    rw [hfo x hxf hxc, hfo p hpf hpc]; exact hi.param p x hpx
  · intro p p' x hp hp'
    exact hi.param_unique p p' x ((hholds p x).1 hp).2 ((hholds p' x).1 hp').2
  · intro x hx hk' hd' hl'
    have hxf : x ≠ f := by rintro rfl; simp [hff, Life.isLive] at hl'
    have hxc : x ≠ c := by rintro rfl; simp [hfc, hck] at hk'
    rw [hfo x hxf hxc] at hk' hd' hl'
    rcases hi.owned x hx hk' hd' hl' with h | ⟨p, hp⟩
    · exact .inl h
    · have hpc : p ≠ c := by rintro rfl; exact hxf (Kind.detachedTask.inj (hp.1.symm.trans
        hholds_cf.1) |> Option.some.inj)
      exact .inr ⟨p, (hholds p x).2 ⟨hpc, hp⟩⟩
  · intro x hx
    by_cases hxf : x = f
    · subst hxf; rw [hff] at hx; simp [hd, hk] at hx
    by_cases hxc : x = c
    · subst hxc; rw [hfc] at hx ⊢
      have h := hi.self x hx
      simp [h.1, h.2.1]
    · rw [hfo x hxf hxc] at hx ⊢; exact hi.self x hx
  · intro x t' hx
    by_cases hxf : x = f
    · subst hxf; rw [hff] at hx; simp [hk] at hx
    by_cases hxc : x = c
    · subst hxc; rw [hfc]; simp
    · rw [hfo x hxf hxc] at hx ⊢; exact hi.wrapper_life x t' hx
  · intro x d hx
    by_cases hxf : x = f
    · subst hxf; rw [hff] at hx ⊢; simp at hx; subst hx; simp [hd, hk]
    by_cases hxc : x = c
    · subst hxc; rw [hfc] at hx ⊢; simp at hx; subst hx; simp [hck]
    · rw [hfo x hxf hxc] at hx ⊢; exact hi.cause x d hx
  · intro x hx
    by_cases hxf : x = f
    · subst hxf; rw [hff] at hx ⊢; exact hi.fresh_cont x (.inl (by simpa using hx))
    by_cases hxc : x = c
    · subst hxc; rw [hfc] at hx ⊢; exact hi.fresh_cont x (.inl (by simpa using hx))
    · rw [hfo x hxf hxc] at hx ⊢; exact hi.fresh_cont x hx
  · intro x
    rw [hi.queued]
    by_cases hxf : x = f
    · subst hxf; simp [hff, hr]
    by_cases hxc : x = c
    · subst hxc; simp [hfc, hcl]
    · simp [hfo x hxf hxc]
  · exact hi.nodup
  · intro x
    by_cases hxf : x = f
    · subst hxf; simp [hff]
    by_cases hxc : x = c
    · subst hxc; simp [hfc]
    · rw [hfo x hxf hxc, hi.running x, hc]; simpa using Ne.symm hxf
  · intro d x hd'
    have hdf : d ≠ f := by rintro rfl; simp [hff] at hd'
    have hdc : d ≠ c := by rintro rfl; simp [hfc] at hd'
    rw [hfo d hdf hdc] at hd'
    have hxf : x ≠ f := by rintro rfl; exact hdc (hawf d hd')
    have hxc : x ≠ c := by rintro rfl; exact hawc d hd'
    rw [hfo x hxf hxc]; exact hi.awaiting d x hd'
  · intro x d hx hfl
    have hxf : x ≠ f := by rintro rfl; simp [hff, Life.inFlight] at hfl
    have hxc : x ≠ c := by rintro rfl; simp [hfc, Life.inFlight] at hfl
    rw [hfo x hxf hxc] at hx hfl
    have h := hi.cont x d hx hfl
    have hdf : d ≠ f := by rintro rfl; simp [hr] at h
    have hdc : d ≠ c := by rintro rfl; rw [hcl] at h; cases h; exact hxf rfl
    rw [hfo d hdf hdc]; exact h

/-! ## キューから取り出して再開する -/

/-- キューの先頭から取り出したジョブが `task<T>` のフレーム `h` を再開する。 -/
theorem Inv.dispatch_task {w w' : World} (hi : w.Inv) {h : Handle} {q : List Handle}
    (hq : w.sched.q = h :: q) (hcur0 : w.cur = none) (hk : (w.frames h).kind = .task)
    (hf : w'.frames = (w.setLife h .running).frames) (hs : w'.size = w.size)
    (hv : w'.vars = w.vars) (hcur : w'.cur = some h) (hsq : w'.sched.q = q)
    (hp : w'.pending = w.pending) : w'.Inv := by
  have hmem : h ∈ w.sched.q ++ w.pending := by simp [hq]
  obtain ⟨hlt, hst⟩ := (hi.queued h).1 hmem
  have hnd := hi.nodup
  rw [hq, List.cons_append, List.nodup_cons] at hnd
  have hff : w'.frames h = { w.frames h with life := .running } := by simp [hf]
  have hfo : ∀ x, x ≠ h → w'.frames x = w.frames x := by intro x hx; simp [hf, hx]
  have hlive : (w.frames h).life.isLive := by
    rcases hst with h' | ⟨h', -⟩ <;> simp [h', Life.isLive]
  have hholds : ∀ p x, w'.Holds p x ↔ w.Holds p x := by
    intro p x
    by_cases h₁ : p = h
    · subst h₁; simp [Holds, hff, hk]
    · simp only [Holds, hfo p h₁]
  constructor <;> try simp only [hholds, hs, hv, hcur, hp, hsq]
  · intro x hx; rw [hfo x (Nat.ne_of_gt (Nat.lt_of_lt_of_le hlt hx))]; exact hi.blank x hx
  · exact hi.var_lt
  · exact hi.var_unique
  · intro j x hj
    obtain ⟨h₁, h₂, h₃, h₄⟩ := hi.var_frame j x hj
    by_cases hxh : x = h
    · subst hxh; rw [hff]; exact ⟨h₁, h₂, rfl, h₄⟩
    · rw [hfo x hxh]; exact ⟨h₁, h₂, h₃, h₄⟩
  · intro j x hj ha
    by_cases hxh : x = h
    · subst hxh; rw [hff] at ha
      have := hi.var_fresh j x hj ha
      rcases hst with h' | ⟨-, h'⟩
      · simp [h'] at this
      · simp [(hi.var_frame j x hj).2.1, hk, show (w.frames x).awaited = false from ha] at h'
    · rw [hfo x hxh] at ha ⊢; exact hi.var_fresh j x hj ha
  · intro p x hpx
    obtain ⟨hx, hk', hd', h'⟩ := hi.param p x hpx
    have hph : p ≠ h := by rintro rfl; simp [Holds, hk] at hpx
    rw [hfo p hph]
    by_cases hxh : x = h
    · subst hxh; rw [hff]
      rcases h' with ⟨-, h', ha'⟩ | h'
      · rcases hst with h'' | ⟨-, h''⟩
        · simp [h'] at h''
        · simp [hd', hk, ha'] at h''
      · exact ⟨hx, hk', hd', .inr h'⟩
    · rw [hfo x hxh]; exact ⟨hx, hk', hd', h'⟩
  · exact hi.param_unique
  · intro x hx hk' hd' hl'
    by_cases hxh : x = h
    · subst hxh; rw [hff] at hk' hd'; exact hi.owned x hx hk' hd' hlive
    · rw [hfo x hxh] at hk' hd' hl'; exact hi.owned x hx hk' hd' hl'
  · intro x hx
    by_cases hxh : x = h
    · subst hxh; rw [hff] at hx ⊢
      have h' := hi.self x hx
      simp [h'.1, h'.2.1]
    · rw [hfo x hxh] at hx ⊢; exact hi.self x hx
  · intro x t hx
    by_cases hxh : x = h
    · subst hxh; rw [hff] at hx; simp [hk] at hx
    · rw [hfo x hxh] at hx ⊢; exact hi.wrapper_life x t hx
  · intro x c hx
    by_cases hxh : x = h
    · subst hxh; rw [hff] at hx; simp at hx
    · rw [hfo x hxh] at hx ⊢; exact hi.cause x c hx
  · intro x hx
    by_cases hxh : x = h
    · subst hxh; rw [hff] at hx ⊢; exact hi.fresh_cont x (.inl (by simpa using hx))
    · rw [hfo x hxh] at hx ⊢; exact hi.fresh_cont x hx
  · intro x
    by_cases hxh : x = h
    · subst hxh; simp [hff, hnd.1]
    · have := hi.queued x
      rw [hq] at this
      simp only [List.cons_append, List.mem_cons, hxh, false_or] at this
      rw [this, hfo x hxh]
  · exact hnd.2
  · intro x
    by_cases hxh : x = h
    · subst hxh; simp [hff]
    · rw [hfo x hxh, hi.running x, hcur0]; simp [Ne.symm hxh]
  · intro c x hc
    have hch : c ≠ h := by
      rintro rfl; rw [hff] at hc; simp at hc
    rw [hfo c hch] at hc
    obtain ⟨h₁, h₂⟩ := hi.awaiting c x hc
    by_cases hxh : x = h
    · subst hxh; rw [hff]; exact ⟨h₁, rfl⟩
    · rw [hfo x hxh]; exact ⟨h₁, h₂⟩
  · intro x c hx hfl
    have hold : (w.frames x).continuation = some c ∧ (w.frames x).life.inFlight := by
      by_cases hxh : x = h
      · subst hxh; rw [hff] at hx
        refine ⟨hx, ?_⟩
        rcases hst with h' | ⟨h', -⟩
        · simp [h', Life.inFlight]
        · simp [hi.fresh_cont x (.inr h')] at hx
      · rw [hfo x hxh] at hx hfl; exact ⟨hx, hfl⟩
    have h' := hi.cont x c hold.1 hold.2
    have hch : c ≠ h := by
      rintro rfl; rcases hst with h'' | ⟨h'', -⟩ <;> simp [h''] at h'
    rw [hfo c hch]; exact h'

/-! ## producer の `post` -/

/-- `k` 番目を抜き出して先頭に置いても、並べ替えにすぎない。 -/
theorem perm_cons_eraseIdx {α : Type} : ∀ {l : List α} {k : Nat} {a : α}, l.get? k = some a →
    List.Perm l (a :: l.eraseIdx k)
  | b :: l, 0, a, hk => by simp at hk; subst hk; simp
  | b :: l, k + 1, a, hk => by
      have ih := perm_cons_eraseIdx (l := l) (k := k) (by simpa using hk)
      exact (ih.cons b).trans (List.Perm.swap a b _)

/-- キューと producer の持つハンドルを並べ替えるだけの一歩は、不変条件を保つ。 -/
theorem Inv.of_perm {w w' : World} (hi : w.Inv) (hf : w'.frames = w.frames)
    (hs : w'.size = w.size) (hv : w'.vars = w.vars) (hc : w'.cur = w.cur)
    (hq : List.Perm (w'.sched.q ++ w'.pending) (w.sched.q ++ w.pending)) : w'.Inv := by
  have hholds : ∀ p g, w'.Holds p g ↔ w.Holds p g := by simp [Holds, hf]
  refine ⟨?_, ?_, ?_, ?_, ?_, ?_, ?_, ?_, ?_, ?_, ?_, ?_, ?_, ?_, ?_, ?_, ?_⟩ <;>
    try simp only [hf, hs, hv, hc, hholds]
  · exact hi.blank
  · exact hi.var_lt
  · exact hi.var_unique
  · exact hi.var_frame
  · exact hi.var_fresh
  · exact hi.param
  · exact hi.param_unique
  · exact hi.owned
  · exact hi.self
  · exact hi.wrapper_life
  · exact hi.cause
  · exact hi.fresh_cont
  · intro h; rw [hq.mem_iff]; exact hi.queued h
  · exact hq.nodup_iff.2 hi.nodup
  · exact hi.running
  · exact hi.awaiting
  · exact hi.cont

/-- `k` 番目の producer が預かったハンドルを `post` する。 -/
theorem Inv.produce {w : World} (hi : w.Inv) {k : Nat} {h : Handle} (hk : w.pending.get? k = some h) :
    { w.post h with pending := w.pending.eraseIdx k }.Inv := by
  refine hi.of_perm rfl rfl rfl rfl ?_
  have hp := perm_cons_eraseIdx hk
  simp only [post_sched, Core.Scheduler.post_q, List.append_assoc, List.singleton_append]
  exact (List.perm_append_left_iff _).2 hp.symm

theorem step_finish_of {w : World} {f : Handle} (hc : w.cur = some f) :
    w.step .finish = w.finalSuspend f := by
  simp [step, hc]

/-- 待っている `task<T>` のフレーム `c` へ移る `final_suspend`。 -/
theorem finalSuspend_resume {w : World} {f c : Handle} (hcont : (w.frames f).continuation = some c)
    (hcl : (w.frames c).life = .awaiting f) (hck : (w.frames c).kind = .task) (hcf : c ≠ f) :
    w.finalSuspend f = .ok { (w.setLife f .final).setLife c .running with cur := some c } := by
  simp [finalSuspend, hcont, resumeContinuation, hcf, hck, hcl]

/-- 待っている `make_detached` のフレーム `c` へ移る `final_suspend`：`c` の `final_awaiter` が `c` を
壊し、そのとき引数のタスク値のデストラクタが `f` を壊す。 -/
theorem finalSuspend_wrapper {w : World} {f c : Handle} (hcont : (w.frames f).continuation = some c)
    (hcl : (w.frames c).life = .awaiting f) (hck : (w.frames c).kind = .detachedTask (some f))
    (hcf : c ≠ f) :
    w.finalSuspend f = .ok { (w.setLife c (.destroyed .finalAwaiter)).setLife f (.destroyed .owner) with
      cur := none } := by
  have hcl' : ((w.setLife f .final).frames c).life = .awaiting f := by simp [hcf, hcl]
  simp [finalSuspend, hcont, resumeContinuation, hcl', hcf, hck, detachedFinal, destroyHandle, kill,
    hcl, Function.update_noteq (Ne.symm hcf)]
  simp only [setLife, modify, World.mk.injEq, and_true]
  funext x
  by_cases h₁ : x = f
  · subst h₁; simp [Function.update_noteq (Ne.symm hcf), hcont]
  by_cases h₂ : x = c
  · subst h₂; simp [h₁, hck]
  · simp [h₁, h₂]

/-- 待つもののない、切り離されていないフレームは `final_suspend` で止まる。 -/
theorem finalSuspend_idle {w : World} {f : Handle} (hcont : (w.frames f).continuation = none)
    (hd : (w.frames f).detached = false) :
    w.finalSuspend f = .ok { w.setLife f .final with cur := none } := by
  simp [finalSuspend, hcont, hd]

/-- 待つもののない、切り離されたフレームは自分の `final_awaiter` が壊す。 -/
theorem finalSuspend_detached {w : World} {f : Handle} (hcont : (w.frames f).continuation = none)
    (hd : (w.frames f).detached = true) (hk : (w.frames f).kind = .task) :
    w.finalSuspend f = .ok { w.setLife f (.destroyed .finalAwaiter) with cur := none } := by
  simp [finalSuspend, hcont, hd, destroyHandle, kill, hk, setLife, modify]

/-- `co_await` で止まっている `make_detached` のフレームが待つのは、引数のタスク値のフレームである。 -/
theorem Inv.wrapper_awaiting {w : World} (hi : w.Inv) {c f : Handle} {t : Option Handle}
    (hck : (w.frames c).kind = .detachedTask t) (hcl : (w.frames c).life = .awaiting f) : t = some f := by
  rcases hi.wrapper_life c t hck with h | ⟨g, rfl, h⟩ | ⟨_, h⟩ <;> rw [hcl] at h
  · cases h
  · cases h; rfl
  · cases h

/-- 走っているフレームの本体の終わりは未定義の動作に当たらず、不変条件を保つ。 -/
theorem Inv.finish {w : World} (hi : w.Inv) {f : Handle} (hc : w.cur = some f) :
    ∃ w', w.finalSuspend f = .ok w' ∧ w'.Inv ∧ w.Keeps w' := by
  obtain ⟨hr, hk, -⟩ := hi.running_frame hc
  have hfl : (w.frames f).life.isLive := by simp [hr, Life.isLive]
  cases hcont : (w.frames f).continuation with
  | some c =>
      have hcl : (w.frames c).life = .awaiting f := hi.cont f c hcont (by simp [hr, Life.inFlight])
      have hcf : c ≠ f := by rintro rfl; simp [hr] at hcl
      have hkeep : ∀ w' : World, (∀ x, x ≠ f → x ≠ c → w'.frames x = w.frames x) → w.Keeps w' :=
        fun _ => Keeps.of_two hfl (by simp [hcl, Life.isLive])
      cases hck : (w.frames c).kind with
      | task =>
          exact ⟨_, finalSuspend_resume hcont hcl hck hcf,
            hi.finish_resume hc hcont hck rfl rfl rfl rfl rfl rfl,
            hkeep _ fun x h₁ h₂ => by simp [h₁, h₂]⟩
      | detachedTask t =>
          cases hi.wrapper_awaiting hck hcl
          exact ⟨_, finalSuspend_wrapper hcont hcl hck hcf,
            hi.finish_wrapper hc hcont hck rfl rfl rfl rfl rfl rfl,
            hkeep _ fun x h₁ h₂ => by simp [h₁, h₂]⟩
  | none =>
      cases hd : (w.frames f).detached with
      | false =>
          exact ⟨_, finalSuspend_idle hcont hd, hi.finish_idle hc hcont hd rfl rfl rfl rfl rfl rfl,
            Keeps.of_two hfl hfl fun x h₁ _ => by simp [h₁]⟩
      | true =>
          exact ⟨_, finalSuspend_detached hcont hd hk, hi.finish_detached hc hd rfl rfl rfl rfl rfl rfl,
            Keeps.of_two hfl hfl fun x h₁ _ => by simp [h₁]⟩

/-- キューか producer の中にある `make_detached` のフレームは、まだ始まっていない。 -/
theorem Inv.wrapper_queued_initial {w : World} (hi : w.Inv) {h : Handle} {t : Option Handle}
    (hq : h ∈ w.sched.q ++ w.pending) (hk : (w.frames h).kind = .detachedTask t) :
    (w.frames h).life = .initial := by
  have hst := ((hi.queued h).1 hq).2
  rcases hi.wrapper_life h t hk with h' | ⟨_, _, h'⟩ | ⟨_, h'⟩
  · exact h'
  all_goals rcases hst with h'' | ⟨h'', -⟩ <;> simp [h'] at h''

/-- `run()` がキューの先頭を取り出して再開するジョブ。 -/
theorem Inv.dispatch {w : World} (hi : w.Inv) :
    w.step .dispatch = .error .nullPromise ∨
      ∃ w', w.step .dispatch = .ok w' ∧ w'.Inv ∧ w.Keeps w' := by
  cases hc : w.cur with
  | some f => exact .inr ⟨w, by simp [step, hc], hi, Keeps.of_frames rfl⟩
  | none =>
      rcases w.sched.check_cases with ⟨h, q, hq, hchk⟩ | ⟨-, -, hchk⟩ | ⟨-, -, hchk⟩
      · obtain ⟨hlt, hst⟩ := (hi.queued h).1 (by simp [hq])
        have hnd := hi.nodup
        rw [hq, List.cons_append, List.nodup_cons] at hnd
        have hhl : (w.frames h).life.isLive := by rcases hst with h' | ⟨h', -⟩ <;> simp [h', Life.isLive]
        set W : World := { w with cur := none, sched := { w.sched with q := q } }
        cases hk : (w.frames h).kind with
        | task =>
            right
            refine ⟨{ W.setLife h .running with cur := some h }, ?_,
              hi.dispatch_task hq hc hk rfl rfl rfl rfl rfl rfl,
              Keeps.of_two hhl hhl fun x h₁ _ => by simp [W, h₁]⟩
            rcases hst with h' | ⟨h', -⟩ <;> simp [step, hc, hchk, resume, hk, resumeTask, h', W]
        | detachedTask t =>
            have hinit := hi.wrapper_queued_initial (by simp [hq]) hk
            cases t with
            | none => exact .inl (by simp [step, hc, hchk, resume, hk, hinit, coAwait])
            | some g =>
                right
                have hholds : w.Holds h g := ⟨hk, by simp [hinit, Life.isLive]⟩
                obtain ⟨hg, hgk, hgd, hpar⟩ := hi.param h g hholds
                obtain ⟨hgl, hga⟩ : (w.frames g).life = .initial ∧ (w.frames g).awaited = false := by
                  rcases hpar with ⟨-, h₁, h₂⟩ | h' 
                  · exact ⟨h₁, h₂⟩
                  · simp [hinit] at h'
                have hhg : h ≠ g := by rintro rfl; simp [hk] at hgk
                have hgL : (w.frames g).life.isLive := by simp [hgl, Life.isLive]
                refine ⟨W.handoff h g, ?_, hi.transfer (.inr ⟨hinit, hk, hc⟩) hg hgk hgd hgl hga
                  (fun p hp => hi.param_unique p h g hp hholds) rfl rfl rfl rfl (fun x => ?_) ?_,
                  Keeps.of_two hhl hgL fun x h₁ h₂ => ?_⟩
                · have := coAwait_initial (w := W) (fun w' => w'.detachedFinal h) hgl hhg
                  simp only [step, hc, hchk, resume, hk, hinit]
                  exact this
                · simp only [handoff, setLife_sched, modify_sched, setLife_pending, modify_pending, W, hq]
                  constructor
                  · intro hx; exact ⟨by simp [hx], by rintro rfl; exact hnd.1 hx⟩
                  · rintro ⟨hx, hxh⟩; simpa [hxh] using hx
                · simpa [handoff, W] using hnd.2
                · rw [handoff_frames hhg, if_neg h₂, if_neg h₁]
      · exact .inr ⟨w, by simp [step, hc, hchk], hi, Keeps.of_frames rfl⟩
      · exact .inr ⟨w, by simp [step, hc, hchk], hi, Keeps.of_frames rfl⟩

/-! ## 一歩 -/

/-- 変数の持つフレームを `task::destroy` で壊した後の世界でも不変条件が成り立つ。 -/
theorem Inv.destroy {w : World} (hi : w.Inv) {i : Nat} (hidle : w.Idle (w.vars i)) :
    ∃ w', w.destroy i = .ok w' ∧ w'.Inv ∧ w.Keeps w' ∧ w'.vars i = none := by
  cases hv : w.vars i with
  | none => exact ⟨w, destroy_none hv, hi, Keeps.of_frames rfl, hv⟩
  | some g =>
      obtain ⟨hk, -, hl, -⟩ := hi.var_frame i g hv
      refine ⟨_, destroy_some hv hk hl, hi.release hv (hidle g hv), Keeps.of_two hl hl ?_, by simp⟩
      intro x hx _; simp [hx]

/-- 決まりを守る一歩は、空のハンドルの `promise()` に当たるか、不変条件を保って壊れたフレームに
触れない。 -/
theorem Inv.step_cases {w : World} (hi : w.Inv) {op : Op} (ha : w.Allowed op) :
    w.step op = .error .nullPromise ∨ ∃ w', w.step op = .ok w' ∧ w'.Inv ∧ w.Keeps w' := by
  cases op with
  | create i =>
      right
      have hfr : (w.alloc .fresh).frames = w.frames := hi.alloc_fresh
      cases hv : w.vars i with
      | none =>
          refine ⟨(w.alloc .fresh).assign i (some w.size),
            by simp [step, destroy_none (w := w.alloc .fresh) hv]; rfl, ?_,
            Keeps.of_frames (show ((w.alloc .fresh).assign i (some w.size)).frames = w.frames from hfr)⟩
          exact hi.create hv hfr (by simp) (by simp) rfl rfl rfl
      | some g =>
          obtain ⟨hk, -, hl, -⟩ := hi.var_frame i g hv
          have hd := destroy_some (w := w.alloc .fresh) (i := i) (g := g) hv (by rw [hfr]; exact hk)
            (by rw [hfr]; exact hl)
          refine ⟨_, by simp only [step, hd]; rfl, ?_, Keeps.of_two hl hl fun x hx _ => ?_⟩
          · have hv₁ : ((w.setLife g (.destroyed .owner)).assign i none).vars i = none := by simp
            refine (hi.release hv (ha g hv)).create hv₁ ?_ (by simp) (by simp) rfl rfl rfl
            simp [hi.alloc_fresh]
          · simp [hi.alloc_fresh, hx]
  | moveConstruct i j => exact .inr ⟨_, rfl, hi.moveConstruct ha.1 ha.2, Keeps.of_frames rfl⟩
  | moveAssign i j =>
      right
      by_cases hij : i = j
      · exact ⟨w, by simp [step, hij], hi, Keeps.of_frames rfl⟩
      · obtain ⟨w₁, hd, hi₁, hk₁, hj⟩ := hi.destroy (ha.resolve_left hij)
        exact ⟨_, by simp [step, hij, hd]; rfl, hi₁.moveConstruct hij hj, hk₁⟩
  | drop i =>
      obtain ⟨w₁, hd, hi₁, hk₁, -⟩ := hi.destroy ha
      exact .inr ⟨w₁, hd, hi₁, hk₁⟩
  | start i =>
      right
      cases hv : w.vars i with
      | none => exact ⟨w, by simp [step, hv], hi, Keeps.of_frames rfl⟩
      | some g =>
          have hl := (hi.var_frame i g hv).2.2.1
          exact ⟨_, by simp [step, hv], hi.start hv (ha g hv),
            Keeps.of_two hl hl fun x hx _ => by simp [hx]⟩
  | postHandle i =>
      right
      cases hv : w.vars i with
      | none => exact ⟨w, by simp [step, hv], hi, Keeps.of_frames rfl⟩
      | some g =>
          have hl := (hi.var_frame i g hv).2.2.1
          exact ⟨_, by simp [step, hv], hi.postHandle hv (ha g hv),
            Keeps.of_two hl hl fun x hx _ => by simp [hx]⟩
  | spawn i =>
      have hl : (w.frames w.size).life.isLive := by
        simp [hi.blank _ (Nat.le_refl _), Frame.fresh, Life.isLive]
      exact .inr ⟨_, rfl, hi.spawn ha, Keeps.of_two hl hl fun x hx _ => by simp [hx]⟩
  | await i =>
      cases hc : w.cur with
      | none => exact .inr ⟨w, by simp [step, hc], hi, Keeps.of_frames rfl⟩
      | some f =>
          cases hv : w.vars i with
          | none => exact .inl (by simp [step, hc, hv, coAwait])
          | some g =>
              right
              obtain ⟨hk, hd, hgL, hnh⟩ := hi.var_frame i g hv
              have hgl := hi.var_fresh i g hv (ha g hv)
              obtain ⟨hr, -, -⟩ := hi.running_frame hc
              have hfL : (w.frames f).life.isLive := by simp [hr, Life.isLive]
              have hfg : f ≠ g := by rintro rfl; simp [hr] at hgl
              refine ⟨w.handoff f g, by simp only [step, hc, hv, coAwait_initial _ hgl hfg], ?_,
                Keeps.of_two hfL hgL fun x h₁ h₂ => by rw [handoff_frames hfg, if_neg h₂, if_neg h₁]⟩
              refine hi.transfer (.inl ⟨hr, hc⟩) (hi.var_lt i g hv) hk hd hgl (ha g hv)
                (fun p hp => absurd hp (hnh p)) rfl rfl rfl rfl (fun x => ?_) ?_
              · simp only [handoff, setLife_sched, modify_sched, setLife_pending, modify_pending]
                refine ⟨fun h => ⟨h, ?_⟩, fun h => h.1⟩
                rintro rfl; simp [hi.queued, hr] at h
              · simpa [handoff] using hi.nodup
  | suspend =>
      right
      cases hc : w.cur with
      | none => exact ⟨w, by simp [step, hc], hi, Keeps.of_frames rfl⟩
      | some f =>
          have hfL : (w.frames f).life.isLive := by simp [(hi.running f).2 hc, Life.isLive]
          refine ⟨{ w.park f with pending := w.pending ++ [f] }, by simp [step, hc],
            hi.park hc rfl rfl rfl rfl ?_, Keeps.of_two hfL hfL fun x hx _ => by simp [hx]⟩
          rw [← List.append_assoc]; exact List.perm_append_singleton _ _
  | schedule s =>
      right
      cases hc : w.cur with
      | none => exact ⟨w, by simp [step, hc], hi, Keeps.of_frames rfl⟩
      | some f =>
          have hfL : (w.frames f).life.isLive := by simp [(hi.running f).2 hc, Life.isLive]
          cases s
          · exact ⟨w, by simp [step, hc], hi, Keeps.of_frames rfl⟩
          · refine ⟨(w.park f).post f, by simp [step, hc], hi.park hc rfl rfl rfl rfl ?_,
              Keeps.of_two hfL hfL fun x hx _ => by simp [hx]⟩
            simp
  | finish =>
      right
      cases hc : w.cur with
      | none => exact ⟨w, by simp [step, hc], hi, Keeps.of_frames rfl⟩
      | some f => rw [step_finish_of hc]; exact hi.finish hc
  | produce k =>
      right
      cases hk : w.pending.get? k with
      | none => exact ⟨w, by simp only [step, hk], hi, Keeps.of_frames rfl⟩
      | some h => exact ⟨_, by simp only [step, hk], hi.produce hk, Keeps.of_frames rfl⟩
  | dispatch => exact hi.dispatch

end World

end Cnerium.Lifetime
