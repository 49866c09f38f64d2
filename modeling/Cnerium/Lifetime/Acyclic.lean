import Cnerium.Lifetime.Theorems

/-!
# `co_await` の鎖

フレーム `c` が `co_await` した `g` の終わりを待って止まっていることを `c` から `g` への辺と見る。
辺を足すのは `task_awaiter::await_suspend` の対称転送だけで、その先の `g` はその場で走り出すから、
辺を持たない。ほかの書き換えは辺を消すだけである。したがってどの一歩も辺の輪を作らず、どの世界から
始めても `co_await` の鎖は有限で終わる（`World.step_acyclic`）。

届く世界では、鎖の終わりは走っているフレームか、キューか producer が再開を預かっているフレームで
ある（`await_chain_reaches_resumer`）。何も走らず、キューも producer も空で、どのタスク値の変数も空
になった世界では、作られたフレームはどれも壊れている（`quiescent_frames_destroyed`）。
-/

namespace Cnerium.Lifetime

namespace World

/-- `c` が `co_await` した `g` の終わりを待って止まっている。 -/
def Awaits (w : World) (c g : Handle) : Prop := (w.frames c).life = .awaiting g

/-- `co_await` の鎖は有限で終わる：待たれている側へたどる列はどれも止まる。 -/
def Acyclic (w : World) : Prop := WellFounded fun g c => w.Awaits c g

/-- 新しい辺が、書き換えた後に辺を持たないフレームへしか向かないなら、鎖は有限のままである。 -/
theorem Acyclic.of_new_leaf {w w' : World} (hw : w.Acyclic)
    (h : ∀ c g, w'.Awaits c g → w.Awaits c g ∨ ∀ x, ¬ w'.Awaits g x) : w'.Acyclic :=
  ⟨fun c => hw.induction c fun c ih => .intro c fun g hg => (h c g hg).elim (ih g)
    fun hleaf => .intro g fun x hx => absurd hx (hleaf x)⟩

theorem Acyclic.of_sub {w w' : World} (hw : w.Acyclic) (h : ∀ c g, w'.Awaits c g → w.Awaits c g) :
    w'.Acyclic :=
  hw.of_new_leaf fun c g hg => .inl (h c g hg)

@[simp] theorem setLife_awaits (w : World) (h : Handle) (l : Life) (c g : Handle) :
    (w.setLife h l).Awaits c g ↔ if c = h then l = .awaiting g else w.Awaits c g := by
  by_cases hc : c = h <;> simp [Awaits, hc]

theorem Acyclic.setLife {w : World} (hw : w.Acyclic) (h : Handle) {l : Life}
    (hl : ∀ g, l ≠ .awaiting g) : (w.setLife h l).Acyclic :=
  hw.of_sub fun c g hg => by
    rw [setLife_awaits] at hg
    split_ifs at hg
    · exact absurd hg (hl g)
    · exact hg

/-- どのフレームの居場所も変えない書き換え。 -/
theorem Acyclic.of_life {w w' : World} (hw : w.Acyclic)
    (h : ∀ x, (w'.frames x).life = (w.frames x).life) : w'.Acyclic :=
  hw.of_sub fun c g hg => by rwa [Awaits, h] at hg

/-- 作られたばかりのフレームは何も待っていない。 -/
theorem Acyclic.alloc {w : World} (hw : w.Acyclic) {fr : Frame} (hfr : ∀ g, fr.life ≠ .awaiting g) :
    (w.alloc fr).Acyclic :=
  hw.of_sub fun c g hg => by
    by_cases hc : c = w.size
    · subst hc; simp [Awaits, alloc] at hg; exact absurd hg (hfr g)
    · simpa [Awaits, alloc, hc] using hg

/-! ## 一歩ごとに -/

theorem kill_acyclic {w w' : World} {h : Handle} {c : Cause} (hw : w.Acyclic)
    (hs : w.kill h c = .ok w') : w'.Acyclic := by
  unfold kill at hs
  split at hs
  · cases hs
  · cases hs; exact hw.setLife h (by simp)

theorem destroyHandle_acyclic {w w' : World} {h : Handle} {c : Cause} (hw : w.Acyclic)
    (hs : w.destroyHandle h c = .ok w') : w'.Acyclic := by
  unfold destroyHandle at hs
  split at hs
  case h_1 w₁ _ hk _ => exact kill_acyclic (kill_acyclic hw hk) hs
  case h_2 => exact kill_acyclic hw hs

theorem destroy_acyclic {w w' : World} {i : Nat} (hw : w.Acyclic) (hs : w.destroy i = .ok w') :
    w'.Acyclic := by
  unfold destroy at hs
  split at hs
  · cases hd : w.destroyHandle _ .owner with
    | error f => rw [hd] at hs; cases hs
    | ok w₁ => rw [hd] at hs; cases hs; exact (destroyHandle_acyclic hw hd).of_life fun _ => rfl
  · cases hs; exact hw

theorem resumeTask_acyclic {w w' : World} {h : Handle} (hw : w.Acyclic)
    (hs : w.resumeTask h = .ok w') : w'.Acyclic := by
  unfold resumeTask at hs
  split at hs <;> cases hs
  all_goals exact (hw.setLife h (by simp)).of_life fun _ => rfl

/-- `await_suspend` は `f` から `g` への辺を足し、`g` を走らせる。`g` がすでに終わっていれば
止まらずに `k` へ進む。 -/
theorem coAwait_acyclic {w w' : World} {f : Handle} {t : Option Handle}
    {k : World → Except Fault World} (hk : ∀ w₁ w₂, w₁.Acyclic → k w₁ = .ok w₂ → w₂.Acyclic)
    (hw : w.Acyclic) (hs : w.coAwait f t k = .ok w') : w'.Acyclic := by
  unfold coAwait at hs
  split at hs
  · cases hs
  · rename_i g
    split at hs
    · cases hs
    · refine hk _ _ (hw.of_life fun x => ?_) hs
      by_cases hx : x = g <;> simp [hx]
    · set w₁ := (w.modify g fun fr => { fr with continuation := some f, awaited := true }).setLife f
        (.awaiting g)
      have hfg : f ≠ g := by
        rintro rfl; simp [w₁, resumeTask] at hs
      have hg : (w₁.frames g).life = (w.frames g).life := by simp [w₁, Ne.symm hfg]
      unfold resumeTask at hs
      rw [hg] at hs
      split at hs <;> cases hs
      all_goals
        refine hw.of_new_leaf fun c x hc => ?_
        simp only [Awaits] at hc ⊢
        by_cases hcg : c = g
        · subst hcg; simp at hc
        · by_cases hcf : c = f
          · subst hcf
            right; simp only [w₁, setLife_frames, modify_frames] at hc
            simp [w₁, hcg] at hc; subst hc; simp
          · left; simpa [w₁, hcg, hcf] using hc

theorem detachedFinal_acyclic {w w' : World} {p : Handle} (hw : w.Acyclic)
    (hs : w.detachedFinal p = .ok w') : w'.Acyclic :=
  destroyHandle_acyclic hw hs

theorem resumeContinuation_acyclic {w w' : World} {c f : Handle} (hw : w.Acyclic)
    (hs : w.resumeContinuation c f = .ok w') : w'.Acyclic := by
  unfold resumeContinuation at hs
  split at hs
  · split_ifs at hs
    split at hs
    · cases hs; exact (hw.setLife c (by simp)).of_life fun _ => rfl
    · exact detachedFinal_acyclic (hw.of_life fun _ => rfl : Acyclic { w with cur := none }) hs
  · cases hs
  · cases hs

theorem finalSuspend_acyclic {w w' : World} {f : Handle} (hw : w.Acyclic)
    (hs : w.finalSuspend f = .ok w') : w'.Acyclic := by
  have hfin : (w.setLife f .final).Acyclic := hw.setLife f (by simp)
  unfold finalSuspend at hs
  split at hs
  · exact resumeContinuation_acyclic hfin hs
  · split_ifs at hs
    · refine destroyHandle_acyclic ?_ hs
      exact hfin.of_life fun _ => rfl
    · cases hs; exact hfin.of_life fun _ => rfl

theorem resume_acyclic {w w' : World} {h : Handle} (hw : w.Acyclic) (hs : w.resume h = .ok w') :
    w'.Acyclic := by
  unfold resume at hs
  split at hs
  · exact resumeTask_acyclic hw hs
  · exact coAwait_acyclic (fun _ _ h₁ h₂ => detachedFinal_acyclic h₁ h₂) hw hs
  · cases hs
  · cases hs

/-- どの世界のどの一歩も `co_await` の輪を作らない。 -/
theorem step_acyclic {w w' : World} {op : Op} (hw : w.Acyclic) (hs : w.step op = .ok w') :
    w'.Acyclic := by
  cases op with
  | create i =>
      cases hd : (w.alloc .fresh).destroy i with
      | error f => simp [step, hd, Except.map] at hs
      | ok w₁ =>
          simp only [step, hd, Except.map, Except.ok.injEq] at hs; subst hs
          exact (destroy_acyclic (hw.alloc (by simp [Frame.fresh])) hd).of_life fun _ => rfl
  | moveConstruct i j => cases hs; exact hw
  | moveAssign i j =>
      simp only [step] at hs
      split_ifs at hs
      · cases hs; exact hw
      · cases hd : w.destroy j with
        | error f => simp [hd, Except.map] at hs
        | ok w₁ =>
            simp only [hd, Except.map, Except.ok.injEq] at hs; subst hs
            exact (destroy_acyclic hw hd).of_life fun _ => rfl
  | drop i => exact destroy_acyclic hw hs
  | start i | postHandle i =>
      simp only [step] at hs
      split at hs <;> cases hs
      · rename_i g _
        refine hw.of_life fun x => ?_
        by_cases hx : x = g <;> simp [hx, post, assign]
      · exact hw
  | spawn i => cases hs; exact (hw.alloc (by simp [Frame.wrapper])).of_life fun _ => rfl
  | await i =>
      simp only [step] at hs
      split at hs
      · exact coAwait_acyclic (fun _ _ h₁ h₂ => by cases h₂; exact h₁) hw hs
      · cases hs; exact hw
  | suspend =>
      simp only [step] at hs
      split at hs <;> cases hs
      · exact (hw.setLife _ (by simp)).of_life fun _ => rfl
      · exact hw
  | schedule s =>
      simp only [step] at hs
      split at hs
      · split_ifs at hs <;> cases hs
        · exact (hw.setLife _ (by simp)).of_life fun _ => rfl
        · exact hw
      · cases hs; exact hw
  | finish =>
      simp only [step] at hs
      split at hs
      · exact finalSuspend_acyclic hw hs
      · cases hs; exact hw
  | produce k =>
      simp only [step] at hs
      split at hs <;> cases hs <;> exact hw
  | dispatch =>
      simp only [step] at hs
      split at hs
      · refine resume_acyclic ?_ hs
        exact hw.of_life fun _ => rfl
      · cases hs; exact hw

theorem acyclic_init : init.Acyclic :=
  ⟨fun c => .intro c fun g hg => by simp [Awaits, init, Frame.fresh] at hg⟩

end World

open World

theorem Reachable.acyclic {w : World} (hw : Reachable w) : w.Acyclic := by
  induction hw with
  | init => exact acyclic_init
  | step _ _ hs ih => exact step_acyclic ih hs

/-! ## 鎖の終わり -/

/-- 走っているか止まって再開を待つフレームから `co_await` の辺をたどると、走っているフレームか、
キューか producer が預かる `waiting` のフレームに着く。 -/
theorem World.Inv.await_chain_end {w : World} (hi : w.Inv) (ha : w.Acyclic) (c : Handle)
    (hc : (w.frames c).life.inFlight) :
    ∃ e, Relation.ReflTransGen w.Awaits c e ∧
      (w.cur = some e ∨ (e ∈ w.sched.q ++ w.pending ∧ (w.frames e).life = .waiting)) := by
  refine ha.induction (C := fun c => (w.frames c).life.inFlight → ∃ e,
    Relation.ReflTransGen w.Awaits c e ∧
      (w.cur = some e ∨ (e ∈ w.sched.q ++ w.pending ∧ (w.frames e).life = .waiting))) c
    (fun c ih hc => ?_) hc
  cases hl : (w.frames c).life
  case running => exact ⟨c, .refl, .inl ((hi.running c).1 hl)⟩
  case waiting =>
    exact ⟨c, .refl, .inr ⟨(hi.queued c).2 ⟨hi.lt_size (by simp [hl]), .inl hl⟩, hl⟩⟩
  case awaiting g =>
    obtain ⟨e, he, hr⟩ := ih g hl (hi.awaiting c g hl).2
    exact ⟨e, .head hl he, hr⟩
  all_goals simp [hl, Life.inFlight] at hc

/-- 届く世界で、走っているか止まって再開を待つフレームはどれも、`co_await` の有限の鎖をたどって、
ループのスレッドで走っているフレームか、キューか producer が再開を預かっている `waiting` のフレームに
着く。互いを `co_await` して止まったままになるフレームの輪はない。 -/
theorem await_chain_reaches_resumer {w : World} (hw : Reachable w) {c : Handle}
    (hc : (w.frames c).life.inFlight) :
    ∃ e, Relation.ReflTransGen w.Awaits c e ∧
      (w.cur = some e ∨ (e ∈ w.sched.q ++ w.pending ∧ (w.frames e).life = .waiting)) :=
  hw.inv.await_chain_end hw.acyclic c hc

/-- `start` したフレーム `1` がタスク値 `0` を `co_await` して止まり、`0` が走っている。 -/
theorem await_chain_reaches_resumer_nested :
    let w := (World.init.run [.create 0, .create 1, .start 1, .dispatch, .await 0]).toOption.getD .init
    (w.frames 1).life.inFlight ∧ ∃ e, Relation.ReflTransGen w.Awaits 1 e ∧
      (w.cur = some e ∨ (e ∈ w.sched.q ++ w.pending ∧ (w.frames e).life = .waiting)) := by
  intro w
  have ha : World.init.Obeys World.Allowed [.create 0, .create 1, .start 1, .dispatch, .await 0] := by
    refine .cons (fun g h => (nomatch h)) rfl (.cons ?_ rfl (.cons ?_ rfl (.cons trivial rfl
      (.cons ?_ rfl trivial))))
    all_goals intro g hg; cases hg <;> rfl
  exact ⟨rfl, await_chain_reaches_resumer (Reachable.run .init ha rfl) rfl⟩

/-! ## 何も残らない世界 -/

/-- 届く世界で何も走らず、キューも producer も空で、どのタスク値の変数も空なら、作られたフレームは
どれも壊れている：`co_await` の途中で止まったままのフレームも、`final_suspend` で持ち主を待つ
フレームも、始まらずに残ったフレームもない。 -/
theorem quiescent_frames_destroyed {w : World} (hw : Reachable w) (hv : ∀ i, w.vars i = none)
    (hq : w.sched.q = []) (hp : w.pending = []) (hc : w.cur = none) {h : Handle}
    (hh : h < w.size) : ∃ c, (w.frames h).life = .destroyed c := by
  have hi := hw.inv
  have hnq : ∀ x, x ∉ w.sched.q ++ w.pending := by simp [hq, hp]
  have hnf : (w.frames h).life.inFlight = false := by
    by_contra hx
    obtain ⟨e, -, he | ⟨he, -⟩⟩ := hi.await_chain_end hw.acyclic h (by simpa using hx)
    · simp [hc] at he
    · exact hnq e he
  cases hl : (w.frames h).life
  case destroyed c => exact ⟨c, rfl⟩
  case final =>
    obtain ⟨i, hvi⟩ := hi.final_owned hl
    simp [hv] at hvi
  case initial =>
    exfalso
    by_cases hs : (w.frames h).detached = true ∨ (w.frames h).kind ≠ .task
    · exact hnq h ((hi.queued h).2 ⟨hh, .inr ⟨hl, hs.imp_right .inl⟩⟩)
    · push_neg at hs
      rcases hi.owned h hh hs.2 (by simpa using hs.1) (by simp [hl, Life.isLive])
        with ⟨i, hvi⟩ | ⟨p, hph⟩
      · simp [hv] at hvi
      · rcases (hi.param p h hph).2.2.2 with ⟨hpl, -, -⟩ | hpl
        · have hplt : p < w.size := by
            by_contra hge
            simp [Holds, hi.blank p (Nat.le_of_not_lt hge), Frame.fresh] at hph
          exact hnq p ((hi.queued p).2 ⟨hplt, .inr ⟨hpl, .inr (.inl (by simp [hph.1]))⟩⟩)
        · simpa [hl, Life.inFlight] using (hi.awaiting p h hpl).2
  all_goals simp [hl, Life.inFlight] at hnf

/-- フレーム `1` が `0` を `co_await` し、`0` が終わって `1` を再開し、`1` が終わって自分を壊し、
変数 `0` のデストラクタが `0` を壊した後。 -/
theorem quiescent_frames_destroyed_drained :
    let w := (World.init.run [.create 0, .create 1, .start 1, .dispatch, .await 0, .finish, .finish,
      .drop 0]).toOption.getD .init
    (∀ i, w.vars i = none) ∧ w.sched.q = [] ∧ w.pending = [] ∧ w.cur = none ∧ 1 < w.size ∧
      ∃ c, (w.frames 1).life = .destroyed c := by
  intro w
  have ha : World.init.Obeys World.Allowed [.create 0, .create 1, .start 1, .dispatch, .await 0, .finish,
      .finish, .drop 0] := by
    refine .cons (fun g h => (nomatch h)) rfl (.cons ?_ rfl (.cons ?_ rfl (.cons trivial rfl
      (.cons ?_ rfl (.cons trivial rfl (.cons trivial rfl (.cons ?_ rfl trivial)))))))
    all_goals intro g hg; cases hg <;> first | rfl | exact .inr rfl
  have hvars : w.vars = Function.update (Function.update (Function.update (Function.update
      (fun _ => none) 0 (some 0)) 1 (some 1)) 1 none) 0 none := rfl
  have hv : ∀ i, w.vars i = none := by
    intro i; rw [hvars]; simp only [Function.update_apply]; split_ifs <;> rfl
  exact ⟨hv, rfl, rfl, rfl, Nat.one_lt_two,
    quiescent_frames_destroyed (Reachable.run .init ha rfl) hv rfl rfl rfl Nat.one_lt_two⟩

end Cnerium.Lifetime
