import Gazetteer.Disk.Change

/-!
# What every change respects

A change succeeds or fails, and in both cases it leaves a disk. A frame relates a disk to the one
that is left; a change keeps a frame when every step of it does.
-/

namespace Gazetteer.Disk.Change

/-- The disk that a change leaves, whether it succeeds or fails. -/
def diskAfter (c : Change α) (d : Disk) : Disk :=
  match c d with
  | .ok _ d => d
  | .error _ d => d

/-- A relation of a disk to a later one that holds when nothing is done, goes through one step after
another and does not depend on the faults to come. -/
class Frame (R : Disk → Disk → Prop) : Prop where
  refl : ∀ d, R d d
  trans : ∀ {d₁ d₂ d₃}, R d₁ d₂ → R d₂ d₃ → R d₁ d₃
  faults : ∀ d faults, R d { d with faults := faults }

def Keeps (R : Disk → Disk → Prop) (c : Change α) : Prop := ∀ d, R d (diskAfter c d)

theorem diskAfter_of_ok {c : Change α} {a : α} {d d' : Disk} (h : c d = .ok a d') :
    diskAfter c d = d' := by rw [diskAfter, h]

theorem diskAfter_of_error {c : Change α} {e : IoError} {d d' : Disk} (h : c d = .error e d') :
    diskAfter c d = d' := by rw [diskAfter, h]

/-! ## Steps -/

section

variable {x : Change α} {f : α → Change β} {d d' : Disk}

theorem get_bind (f : Disk → Change α) (d : Disk) : (get >>= f) d = f d d := rfl

theorem diskAfter_get (f : Disk → Change α) (d : Disk) :
    diskAfter (get >>= f) d = diskAfter (f d) d := rfl

theorem bind_eq_ok {b : β} :
    (x >>= f) d = .ok b d' ↔ ∃ a m, x d = .ok a m ∧ f a m = .ok b d' := by
  show EStateM.bind x f d = .ok b d' ↔ _
  unfold EStateM.bind
  cases x d <;> simp [and_assoc]

theorem bind_eq_error {e : IoError} : (x >>= f) d = .error e d' ↔
    x d = .error e d' ∨ ∃ a m, x d = .ok a m ∧ f a m = .error e d' := by
  show EStateM.bind x f d = .error e d' ↔ _
  unfold EStateM.bind
  cases x d <;> simp [and_assoc]

theorem bind_of_ok {a : α} (h : x d = .ok a d') : (x >>= f) d = f a d' := by
  show EStateM.bind x f d = _
  unfold EStateM.bind
  rw [h]

theorem bind_of_error {e : IoError} (h : x d = .error e d') : (x >>= f) d = .error e d' :=
  bind_eq_error.2 (.inl h)

theorem tryCatch_of_ok {f : IoError → Change α} {a : α} (h : x d = .ok a d') :
    tryCatch x f d = .ok a d' := by
  show EStateM.tryCatch x f d = _
  unfold EStateM.tryCatch
  rw [h]

/-- What a change has done before it failed stays done. -/
theorem tryCatch_of_error {f : IoError → Change α} {e : IoError} (h : x d = .error e d') :
    tryCatch x f d = f e d' := by
  show EStateM.tryCatch x f d = _
  unfold EStateM.tryCatch
  rw [h]
  rfl

theorem diskAfter_bind {a : α} (h : x d = .ok a d') :
    diskAfter (x >>= f) d = diskAfter (f a) d' := by
  rw [diskAfter, diskAfter, bind_of_ok h]

theorem diskAfter_discard (x : Change α) (d : Disk) : diskAfter (discard x) d = diskAfter x d := by
  show diskAfter (EStateM.map (fun _ => ()) x) d = _
  unfold diskAfter EStateM.map
  cases x d <;> rfl

theorem diskAfter_bind_pure (x : Change α) (g : α → β) (d : Disk) :
    diskAfter (x >>= fun a => pure (g a)) d = diskAfter x d := by
  show (match EStateM.bind x (fun a => pure (g a)) d with | .ok _ d | .error _ d => d) = _
  unfold diskAfter EStateM.bind
  cases x d <;> rfl

theorem discard_eq_ok {u : Unit} : discard x d = .ok u d' ↔ ∃ a, x d = .ok a d' := by
  show EStateM.map (fun _ => ()) x d = .ok u d' ↔ _
  unfold EStateM.map
  cases x d <;> simp

theorem ask_eq_ok {f : Disk → Except IoError α} {a : α} :
    ask f d = .ok a d' ↔ f d = .ok a ∧ d = d' := by
  unfold ask
  cases f d <;> simp

theorem ask_eq_error {f : Disk → Except IoError α} {e : IoError} :
    ask f d = .error e d' ↔ f d = .error e ∧ d = d' := by
  unfold ask
  cases f d <;> simp

end

namespace Keeps

variable {R : Disk → Disk → Prop} {d d' : Disk}

theorem of_ok {c : Change α} {a : α} (hc : Keeps R c) (hrun : c d = .ok a d') : R d d' :=
  diskAfter_of_ok hrun ▸ hc d

theorem of_error {c : Change α} {e : IoError} (hc : Keeps R c) (hrun : c d = .error e d') :
    R d d' := diskAfter_of_error hrun ▸ hc d

variable [Frame R]

theorem pure (a : α) : Keeps R (Pure.pure a) := Frame.refl

theorem throw (e : IoError) : Keeps R (MonadExcept.throw e : Change α) := Frame.refl

theorem get : Keeps R (MonadState.get : Change Disk) := Frame.refl

theorem bind {x : Change α} {f : α → Change β} (hx : Keeps R x) (hf : ∀ a, Keeps R (f a)) :
    Keeps R (x >>= f) := by
  intro d
  show R d (match EStateM.bind x f d with | .ok _ d | .error _ d => d)
  unfold EStateM.bind
  cases hrun : x d with
  | ok a m => exact Frame.trans (hx.of_ok hrun) (hf a m)
  | error e m => exact hx.of_error hrun

theorem tryCatch {x : Change α} {f : IoError → Change α} (hx : Keeps R x)
    (hf : ∀ e, Keeps R (f e)) : Keeps R (tryCatch x f) := by
  intro d
  show R d (match EStateM.tryCatch x f d with | .ok _ d | .error _ d => d)
  unfold EStateM.tryCatch
  cases hrun : x d with
  | ok a m => exact hx.of_ok hrun
  | error e m => exact Frame.trans (hx.of_error hrun) (hf e m)

/-- What is asked is known of the disk that the rest starts from. -/
theorem ask {f : Disk → Except IoError α} {g : α → Change β}
    (hg : ∀ a, f d = .ok a → R d (diskAfter (g a) d)) : R d (diskAfter (ask f >>= g) d) := by
  show R d (match EStateM.bind (Change.ask f) g d with | .ok _ d | .error _ d => d)
  unfold EStateM.bind Change.ask
  cases hask : f d with
  | ok a => exact hg a hask
  | error e => exact Frame.refl d

theorem nextFault : Keeps R nextFault := by
  intro d
  unfold diskAfter Change.nextFault
  cases d.faults with
  | nil => exact Frame.refl d
  | cons fault faults => exact Frame.faults d faults

theorem admitted : Keeps R admitted :=
  bind nextFault fun
    | none => pure ()
    | some _ => throw .noSpace

/-- Making folders along a route keeps what making the folder at the end of each of its parts does.
-/
theorem makeFoldersUpTo {steps : List Step}
    (hmake : ∀ r, r <+: steps.reverse → Keeps R (makeFolder r)) :
    Keeps R (makeFoldersUpTo steps) := by
  induction steps with
  | nil => exact pure ()
  | cons step above ih =>
    have hup : above.reverse <+: (step :: above).reverse := by
      rw [List.reverse_cons]
      exact List.prefix_append _ _
    have habove := ih fun r hr => hmake r (hr.trans hup)
    have hend : ∀ e, Keeps R (do
        if (← MonadState.get).isFolder (step :: above).reverse then Pure.pure ()
        else MonadExcept.throw e : Change Unit) := by
      intro e
      refine bind get fun d => ?_
      split
      · exact pure ()
      · exact throw e
    rw [Change.makeFoldersUpTo]
    split
    · exact habove
    · -- A folder is made once, and once more after those above it.
      have hlast := hmake _ List.prefix_rfl
      refine tryCatch hlast fun e => ?_
      cases e with
      | notFound => exact bind habove fun _ => tryCatch hlast hend
      | _ => exact hend _

end Keeps
end Gazetteer.Disk.Change
