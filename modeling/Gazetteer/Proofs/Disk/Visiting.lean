import Gazetteer.Proofs.Disk.Housing

/-!
# What a way comes to

Where a route leads depends on nothing but what stands at the places that the way comes to, from one
link to the next. So a change anywhere else, as long as no folder comes or goes, leaves the route as
it is: it leads where it led, or fails as it failed (`Agrees.follow_eq`), and the same is read along
it (`Agrees.read_eq`).
-/

namespace Gazetteer.Disk

/-- Whoever goes along steps, through links, comes to a name at a place, whether something stands
there or not. -/
inductive Visits (d : Disk) (goal : List String) : List String → List Step → Prop
  | arrive {here name rest} (folder : d.node? here = some .folder)
    (arrived : here ++ [name] = goal) : Visits d goal here (.down name :: rest)
  | idle {here step rest} (folder : d.node? here = some .folder) (idle : step.isIdle = true)
    (onward : Visits d goal here rest) : Visits d goal here (step :: rest)
  | up {here rest} (folder : d.node? here = some .folder)
    (onward : Visits d goal here.dropLast rest) : Visits d goal here (.up :: rest)
  | down {here name rest node} (folder : d.node? here = some .folder)
    (stands : d.node? (here ++ [name]) = some node) (direct : node.isLink = false)
    (onward : Visits d goal (here ++ [name]) rest) : Visits d goal here (.down name :: rest)
  | jump {here name target rest} (folder : d.node? here = some .folder)
    (stands : d.node? (here ++ [name]) = some (.link target))
    (onward : Visits d goal [] (Route.join (.ofNames here) target ++ rest)) :
    Visits d goal here (.down name :: rest)

variable {d d' : Disk} {goal here place middle : List String} {steps rest : List Step}

/-! ## Ways that lead to their end -/

/-- What a way comes to is on its first part or on the rest. -/
theorem Visits.append_cases (hway : d.Leads here steps middle)
    (h : d.Visits goal here (steps ++ rest)) :
    d.Visits goal here steps ∨ d.Visits goal middle rest := by
  induction hway with
  | done => exact .inr h
  | idle hfolder hidle _ ih =>
    cases h with
    | arrive => cases hidle
    | idle _ _ honward => exact (ih honward).imp_left (.idle hfolder hidle)
    | up => cases hidle
    | down => cases hidle
    | jump => cases hidle
  | up hfolder _ ih =>
    cases h with
    | idle _ hidle => cases hidle
    | up _ honward => exact (ih honward).imp_left (.up hfolder)
  | down hfolder hnode hdirect _ ih =>
    cases h with
    | arrive _ harrived => exact .inl (.arrive hfolder harrived)
    | idle _ hidle => cases hidle
    | down _ _ _ honward => exact (ih honward).imp_left (.down hfolder hnode hdirect)
    | jump _ hlink =>
      rw [hnode] at hlink
      cases hlink
      cases hdirect
  | jump hfolder hlink _ ih =>
    cases h with
    | arrive _ harrived => exact .inl (.arrive hfolder harrived)
    | idle _ hidle => cases hidle
    | down _ hnode hdirect =>
      rw [hlink] at hnode
      cases hnode
      cases hdirect
    | jump _ hsame honward =>
      rw [hlink] at hsame
      cases hsame
      rw [List.append_eq, ← List.append_assoc] at honward
      exact (ih honward).imp_left (.jump hfolder hlink)

/-- A way that leads to a folder comes to folders and links only. -/
theorem Visits.not_isLoose (h : d.Visits goal here steps) (hway : d.Leads here steps place)
    (hplace : d.node? place = some .folder) : ¬ IsLoose (d.node? goal) := by
  induction hway with
  | done => cases h
  | idle hfolder hidle _ ih =>
    cases h with
    | arrive => cases hidle
    | idle _ _ honward => exact ih honward hplace
    | up => cases hidle
    | down => cases hidle
    | jump => cases hidle
  | up hfolder _ ih =>
    cases h with
    | idle _ hidle => cases hidle
    | up _ honward => exact ih honward hplace
  | down hfolder hnode hdirect honward ih =>
    cases h with
    | arrive _ harrived =>
      subst harrived
      intro hloose
      obtain ⟨-, rfl⟩ := honward.eq_of_ne_folder hloose.1
      exact hloose.1 hplace
    | idle _ hidle => cases hidle
    | down _ _ _ hvisits => exact ih hvisits hplace
    | jump _ hlink =>
      rw [hnode] at hlink
      cases hlink
      cases hdirect
  | jump hfolder hlink _ ih =>
    cases h with
    | arrive _ harrived =>
      subst harrived
      exact fun hloose => hloose.2 _ hlink
    | idle _ hidle => cases hidle
    | down _ hnode hdirect =>
      rw [hlink] at hnode
      cases hnode
      cases hdirect
    | jump _ hsame hvisits =>
      rw [hlink] at hsame
      cases hsame
      exact ih hvisits hplace

/-- A way that leads to what is no folder has come there. -/
theorem visits_of_leads (h : d.Leads here steps place) (hhere : d.IsSolid here)
    (hplace : d.node? place ≠ some .folder) : place = here ∨ d.Visits place here steps := by
  induction h with
  | done => exact .inl rfl
  | idle hfolder hidle _ ih => exact (ih hhere hplace).imp_right (.idle hfolder hidle)
  | @up here rest place hfolder _ ih =>
    have habove : d.node? here.dropLast = some .folder :=
      hhere.node?_way hfolder (List.dropLast_prefix here)
    rcases ih ((Leads.up hfolder .done).isSolid hhere) hplace with rfl | hvisits
    · exact absurd habove hplace
    · exact .inr (.up hfolder hvisits)
  | down hfolder hnode hdirect _ ih =>
    right
    rcases ih ((Leads.down hfolder hnode hdirect .done).isSolid hhere) hplace with rfl | hvisits
    · exact .arrive hfolder rfl
    · exact .down hfolder hnode hdirect hvisits
  | jump hfolder hlink _ ih =>
    right
    rcases ih (.nil d) hplace with rfl | hvisits
    · exact absurd (node?_nil d) hplace
    · exact .jump hfolder hlink hvisits

/-- Where folders, links and files still stand a way comes to the same places. -/
theorem Sustains.visits (hd : Sustains d d') (h : d.Visits goal here steps) :
    d'.Visits goal here steps := by
  induction h with
  | arrive hfolder harrived => exact .arrive (hd.folder _ hfolder) harrived
  | idle hfolder hidle _ ih => exact .idle (hd.folder _ hfolder) hidle ih
  | up hfolder _ ih => exact .up (hd.folder _ hfolder) ih
  | @down here name rest node hfolder hnode hdirect _ ih =>
    cases node with
    | file content time =>
      obtain ⟨content', time', hfile⟩ := hd.file _ content time hnode
      exact .down (hd.folder _ hfolder) hfile rfl ih
    | folder => exact .down (hd.folder _ hfolder) (hd.folder _ hnode) rfl ih
    | link target => cases hdirect
  | jump hfolder hlink _ ih => exact .jump (hd.folder _ hfolder) (hd.link _ _ hlink) ih

/-! ## Changes elsewhere -/

/-- Two disks differ only at places that a way does not come to, and where no folder stands. -/
def Agrees (d d' : Disk) (here : List String) (steps : List Step) : Prop :=
  ∀ p, d'.node? p = d.node? p ∨
    (d.node? p ≠ some .folder ∧ d'.node? p ≠ some .folder) ∧ ¬ d.Visits p here steps

namespace Agrees

/-- One place has changed, which the way does not come to. -/
theorem of_place {content : Content} {time : Int}
    (hnode : ∀ p, d'.node? p = if p = place then some (.file content time) else d.node? p)
    (hfolder : d.node? place ≠ some .folder) (hunvisited : ¬ d.Visits place here steps) :
    Agrees d d' here steps := by
  intro p
  by_cases hp : p = place
  · subst hp
    refine .inr ⟨⟨hfolder, ?_⟩, hunvisited⟩
    rw [hnode, if_pos rfl]
    exact nofun
  · exact .inl (by rw [hnode, if_neg hp])

theorem mono {other : List String} {more : List Step} (h : Agrees d d' here steps)
    (hvisits : ∀ p, d.Visits p other more → d.Visits p here steps) : Agrees d d' other more :=
  fun p => (h p).imp_right (And.imp_right (mt (hvisits p)))

theorem node?_eq (h : Agrees d d' here steps) (hvisits : d.Visits place here steps) :
    d'.node? place = d.node? place :=
  (h place).resolve_right fun hdiffers => hdiffers.2 hvisits

theorem folder_iff (h : Agrees d d' here steps) (p : List String) :
    d'.node? p = some .folder ↔ d.node? p = some .folder := by
  rcases h p with hsame | ⟨⟨hfolder, hfolder'⟩, -⟩
  · rw [hsame]
  · exact iff_of_false hfolder' hfolder

theorem walkWith_eq (h : Agrees d d' here steps)
    {jump jump' : List String → List Step → Except IoError (List String)}
    (hjump : ∀ here steps, Agrees d d' [] steps → jump' here steps = jump here steps) :
    d'.walkWith jump' here steps = d.walkWith jump here steps := by
  induction steps generalizing here with
  | nil => rfl
  | cons step rest ih =>
    by_cases hfolder : d.node? here = some .folder
    · have hfolder' := (h.folder_iff here).2 hfolder
      have hidle : step.isIdle = true → Agrees d d' here rest := fun hidle =>
        h.mono fun _ => .idle hfolder hidle
      cases step with
      | here => simp only [walkWith, hfolder, hfolder', ih (hidle rfl)]
      | blank => simp only [walkWith, hfolder, hfolder', ih (hidle rfl)]
      | up =>
        have habove : Agrees d d' here.dropLast rest := h.mono fun _ => .up hfolder
        simp only [walkWith, hfolder, hfolder', ih habove]
      | down name =>
        have hsame : d'.node? (here ++ [name]) = d.node? (here ++ [name]) :=
          h.node?_eq (.arrive hfolder rfl)
        simp only [walkWith, hfolder, hfolder', hsame]
        cases hnode : d.node? (here ++ [name]) with
        | none => rfl
        | some node =>
          cases node with
          | link target =>
            have honward : Agrees d d' [] (Route.join (.ofNames here) target ++ rest) :=
              h.mono fun _ => .jump hfolder hnode
            simp only [hjump _ _ honward]
          | file content time =>
            have honward : Agrees d d' (here ++ [name]) rest :=
              h.mono fun _ => .down hfolder hnode rfl
            simp only [ih honward]
          | folder =>
            have honward : Agrees d d' (here ++ [name]) rest :=
              h.mono fun _ => .down hfolder hnode rfl
            simp only [ih honward]
    · have hfolder' := mt (h.folder_iff here).1 hfolder
      cases step <;> simp only [walkWith, ne_eq, hfolder, hfolder', not_false_eq_true, if_true]

theorem walk_eq {links : Nat} (h : Agrees d d' here steps) :
    d'.walk links here steps = d.walk links here steps := by
  induction links generalizing here steps with
  | zero => exact h.walkWith_eq fun _ _ _ => rfl
  | succ links ih => exact h.walkWith_eq fun _ _ honward => ih honward

variable {r : Route}

/-- A route leads where it led, or fails as it failed. -/
theorem follow_eq (h : Agrees d d' [] r) : d'.follow r = d.follow r := by
  unfold Disk.follow
  simp only [h.walk_eq]

/-- A name in the folder to which the way before it leads finds the same place. -/
theorem locate_eq {base : Route} (h : Agrees d d' [] base.trimmed) (name : String) :
    d'.locate (base ++ [.down name]) = d.locate (base ++ [.down name]) := by
  unfold locate
  simp only [List.getLast?_concat, Route.parent_concat, h.follow_eq, ne_eq, h.folder_iff]

/-- The same is read along a route, or reading fails in the same way. -/
theorem read_eq (h : Agrees d d' [] r) : d'.read r = d.read r := by
  unfold Disk.read status
  rw [h.follow_eq]
  cases hfollow : d.follow r with
  | error e => rfl
  | ok place =>
    have hsame : d'.node? place = d.node? place := by
      refine (h place).resolve_right ?_
      rintro ⟨⟨hfolder, -⟩, hunvisited⟩
      rcases visits_of_leads (leads_of_follow hfollow) (.nil d) hfolder with rfl | hvisits
      · exact hfolder (node?_nil d)
      · exact hunvisited hvisits
    simp only [bind, Except.bind, hsame]

end Agrees
end Gazetteer.Disk
