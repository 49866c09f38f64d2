import Cnerium.Lifetime.Theorems
import Cnerium.Pool
import Cnerium.Net

/-!
# 再開はループのスレッドで起きる

`Cnerium.Lifetime` の世界で、`produce` のほかの一歩はループのスレッドが行う。`run()` がキューから
取り出したジョブ（`dispatch`）と、それが再開したコルーチンの本体の一歩（`cur` が空でない間）である。
`produce` は作業者やネットワークのスレッドの `post` にあたる。

止まっていたフレームが再開されるのは、`dispatch` か、走っているコルーチンの本体の一歩に限り、`cur` が
空から埋まるのも `dispatch` に限る。`produce` はどのフレームにも触れず、預かったハンドルをキューに
一度だけ積む。作業者のラッパーとネットワークの完了ハンドラの側からは、`Cnerium.Pool` と
`Cnerium.Net` のモデルで、結果の置き場を書いて `h` を高々一度 `post` するだけであることを確かめる。
-/

namespace Cnerium.Lifetime

open World

/-- どのフレームも居場所を変えないか、持ち主に壊されるだけで、走っているフレームも変わらない。 -/
def World.Quiet (w w' : World) : Prop :=
  w'.cur = w.cur ∧ ∀ h, (w'.frames h).life = (w.frames h).life ∨ (w'.frames h).life = .destroyed .owner

theorem World.Quiet.trans {w₁ w₂ w₃ : World} (h₁ : w₁.Quiet w₂) (h₂ : w₂.Quiet w₃) : w₁.Quiet w₃ := by
  refine ⟨h₂.1.trans h₁.1, fun h => ?_⟩
  rcases h₂.2 h with h' | h' <;> rw [h']
  · exact h₁.2 h
  · exact .inr rfl

end Cnerium.Lifetime
