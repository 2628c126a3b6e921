import SlideConverter.FileTree.Reply
import SlideConverter.Proofs.Dialogue

/-!
# Surroundings with a disk

The disk of some surroundings is a file tree if every question of the disk is answered by
it. Others may write to the tree as well, before a question of the disk and while anything
else is asked; what they may write is for the caller to say.
-/

namespace SlideConverter

variable {σ : Type}

/-- The disk is the tree that `tree` shows; others write to it as `writes` says. -/
structure OnDisk (r : Surroundings σ) (tree : σ → FileTree)
    (writes : FileTree → FileTree → Prop) : Prop where
  disk : ∀ question s, question.ofDisk = true → ∃ t, writes (tree s) t ∧
    (r.answer question s).1 = (FileTree.answer question t).1 ∧
    tree (r.answer question s).2 = (FileTree.answer question t).2
  other : ∀ question s, question.ofDisk = false → writes (tree s) (tree (r.answer question s).2)

/-- What the others and every answer keep holds of the tree in the end, and it has held of the
trees that the answers came from. -/
theorem OnDisk.keeps {r : Surroundings σ} {tree : σ → FileTree}
    {writes : FileTree → FileTree → Prop} {holds : FileTree → Prop} {s s' : σ}
    {events : List ActEvent} (onDisk : OnDisk r tree writes)
    (written : ∀ t t', writes t t' → holds t → holds t')
    (answered : ∀ question answer, .asked question answer ∈ events → question.ofDisk = true →
      ∀ t, holds t → (FileTree.answer question t).1 = answer → holds (FileTree.answer question t).2)
    (answers : r.Answers s events s') (start : holds (tree s)) :
    holds (tree s') ∧ ∀ question answer, .asked question answer ∈ events →
      question.ofDisk = true → ∃ t, holds t ∧ (FileTree.answer question t).1 = answer := by
  induction events generalizing s with
  | nil =>
    rw [Respondent.Answers] at answers
    subst answers
    exact ⟨start, by simp⟩
  | cons event rest ih =>
    have later : ∀ question answer, .asked question answer ∈ rest → question.ofDisk = true →
        ∀ t, holds t → (FileTree.answer question t).1 = answer →
          holds (FileTree.answer question t).2 := fun question answer there =>
      answered question answer (List.mem_cons_of_mem event there)
    cases event with
    | noted entry =>
      obtain ⟨last, each⟩ := ih later answers start
      refine ⟨last, ?_⟩
      intro question answer there
      exact each question answer (by simpa using there)
    | asked question answer =>
      obtain ⟨same, onward⟩ := answers
      by_cases ofDisk : question.ofDisk = true
      · obtain ⟨t, wrote, agrees, after⟩ := onDisk.disk question s ofDisk
        have here := written _ _ wrote start
        have this := agrees.symm.trans same
        have next := answered question answer List.mem_cons_self ofDisk t here this
        obtain ⟨last, each⟩ := ih later onward (after ▸ next)
        refine ⟨last, ?_⟩
        intro question' answer' there
        rcases List.mem_cons.mp there with first | there
        · cases first
          exact fun _ => ⟨t, here, this⟩
        · exact each question' answer' there
      · have wrote := onDisk.other question s (by simpa using ofDisk)
        obtain ⟨last, each⟩ := ih later onward (written _ _ wrote start)
        refine ⟨last, ?_⟩
        intro question' answer' there
        rcases List.mem_cons.mp there with first | there
        · cases first
          exact fun disk => absurd disk ofDisk
        · exact each question' answer' there

/-- While the disk is not asked only the others count. -/
theorem OnDisk.keeps_of_apart {r : Surroundings σ} {tree : σ → FileTree}
    {writes : FileTree → FileTree → Prop} {holds : FileTree → Prop} {s s' : σ}
    {events : List ActEvent} (onDisk : OnDisk r tree writes)
    (written : ∀ t t', writes t t' → holds t → holds t')
    (apart : ∀ question answer, .asked question answer ∈ events → question.ofDisk = false)
    (answers : r.Answers s events s') (start : holds (tree s)) : holds (tree s') := by
  refine (onDisk.keeps written ?_ answers start).1
  intro question answer asked ofDisk
  rw [apart question answer asked] at ofDisk
  cases ofDisk

/-- On a tree by itself nobody else writes. -/
theorem FileTree.onDisk (writes : FileTree → FileTree → Prop) (nothing : ∀ t, writes t t) :
    OnDisk FileTree.surroundings id writes where
  disk question t _ := ⟨t, nothing t, rfl, rfl⟩
  other question t other := by
    cases question <;> first | exact nothing t | cases other

end SlideConverter
