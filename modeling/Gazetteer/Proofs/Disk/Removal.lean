import Gazetteer.Proofs.Disk.Housing

/-!
# Disks without a file

When what stands at a place is taken away, with everything below it, the route to it leads nowhere
any more, and no route leads where it did not lead before. If it was a file, all other routes lead
where they led.
-/

namespace Gazetteer.Disk

variable {d : Disk} {place way home here : List String} {name : String} {steps : List Step}

/-- The disk without what stands at a place and below it. -/
def without (d : Disk) (place : List String) : Disk :=
  { d with
    nodes := d.nodes.filter fun p _ => !place.isPrefixOf p
    numbers := d.numbers.filter fun p _ => !place.isPrefixOf p }

theorem node?_without (hplace : place ≠ []) (p : List String) :
    (d.without place).node? p = if place <+: p then none else d.node? p := by
  by_cases hp : p = []
  · subst hp
    rw [node?_nil, node?_nil, if_neg (mt List.prefix_nil.1 hplace)]
  · rw [node?_of_ne_nil hp, node?_of_ne_nil hp]
    refine Option.ext fun node => ?_
    rw [OrdMap.find?_eq_some_iff]
    by_cases hbelow : place <+: p
    · simp [without, OrdMap.filter, hbelow]
    · have hkept : place.isPrefixOf p = false := by
        rw [← Bool.not_eq_true, List.isPrefixOf_iff_prefix]
        exact hbelow
      simp [without, OrdMap.filter, hbelow, hkept, OrdMap.find?_eq_some_iff]

theorem node?_without_outside (hplace : place ≠ []) {p : List String} (hp : ¬ place <+: p) :
    (d.without place).node? p = d.node? p := by rw [node?_without hplace, if_neg hp]

theorem thinning_without (hplace : place ≠ []) : Thinning d (d.without place) := by
  intro p
  rw [node?_without hplace]
  split
  · exact .inr rfl
  · exact .inl rfl

/-! ## The route to a file -/

theorem Route.exists_text_append (r rest : Route) :
    ∃ last, text (r ++ rest) = r.text ++ last := by
  unfold text
  rw [List.map_append]
  rcases List.eq_nil_or_concat rest with rfl | ⟨steps, step, rfl⟩
  · exact ⟨"", by simp⟩
  · cases r with
    | nil => exact ⟨_, by rw [List.map_nil, List.nil_append, String.intercalate_nil]; rfl⟩
    | cons first r =>
      refine ⟨"/" ++ "/".intercalate ((steps.concat step).map Step.text), ?_⟩
      rw [String.intercalate_append_of_ne_nil (by simp) (by simp)]
      simp only [String.append_assoc]

theorem accept_of_append {r rest : Route} (h : accept (r ++ rest) = .ok ()) :
    accept r = .ok () := by
  obtain ⟨last, htext⟩ := Route.exists_text_append r rest
  unfold accept at h ⊢
  simp only [htext, String.toList_append, List.mem_append, String.utf8ByteSize_append] at h ⊢
  split at h
  · cases h
  next hclean =>
    split at h
    · cases h
    next hshort =>
      rw [if_neg fun hway => hclean (.inl hway), if_neg]
      omega

/-- A walk that goes on comes to a place in between. -/
theorem walkWith_of_append {jump jump' : List String → List Step → Except IoError (List String)}
    {rest : List Step}
    (hjump : ∀ here steps, jump here (steps ++ rest) = .ok place → ∃ middle,
      jump' here steps = .ok middle ∧ ∃ onward, d.walkWith onward middle rest = .ok place)
    (hwalk : d.walkWith jump here (steps ++ rest) = .ok place) : ∃ middle,
      d.walkWith jump' here steps = .ok middle ∧
        ∃ onward, d.walkWith onward middle rest = .ok place := by
  induction steps generalizing here with
  | nil => exact ⟨here, rfl, jump, hwalk⟩
  | cons step steps ih =>
    rw [List.cons_append] at hwalk
    obtain ⟨hfolder, hstep⟩ := walkWith_cons_iff.1 hwalk
    rcases hstep with ⟨hidle, hrest⟩ | ⟨rfl, hrest⟩ | ⟨first, rfl, hsize, hdown⟩
    · obtain ⟨middle, hwalk', hmiddle⟩ := ih hrest
      exact ⟨middle, walkWith_cons_iff.2 ⟨hfolder, .inl ⟨hidle, hwalk'⟩⟩, hmiddle⟩
    · obtain ⟨middle, hwalk', hmiddle⟩ := ih hrest
      exact ⟨middle, walkWith_cons_iff.2 ⟨hfolder, .inr (.inl ⟨rfl, hwalk'⟩)⟩, hmiddle⟩
    · rcases hdown with ⟨target, hlink, hrest⟩ | ⟨node, hnode, hdirect, hrest⟩
      · rw [← List.append_assoc] at hrest
        obtain ⟨middle, hwalk', hmiddle⟩ := hjump _ _ hrest
        exact ⟨middle, walkWith_cons_iff.2
          ⟨hfolder, .inr (.inr ⟨first, rfl, hsize, .inl ⟨target, hlink, hwalk'⟩⟩)⟩, hmiddle⟩
      · obtain ⟨middle, hwalk', hmiddle⟩ := ih hrest
        exact ⟨middle, walkWith_cons_iff.2
          ⟨hfolder, .inr (.inr ⟨first, rfl, hsize, .inr ⟨node, hnode, hdirect, hwalk'⟩⟩)⟩, hmiddle⟩

theorem walk_of_append {links : Nat} {rest : List Step}
    (hwalk : d.walk links here (steps ++ rest) = .ok place) : ∃ middle,
      d.walk links here steps = .ok middle ∧
        ∃ onward, d.walkWith onward middle rest = .ok place := by
  induction links generalizing here steps with
  | zero => exact walkWith_of_append (fun _ _ hjump => by cases hjump) hwalk
  | succ links ih => exact walkWith_of_append (fun _ _ hjump => ih hjump) hwalk

/-- A walk that ends in a name comes to a folder before. -/
theorem walk_of_concat {links : Nat}
    (hwalk : d.walk links here (steps ++ [.down name]) = .ok place) : ∃ home,
      d.walk links here steps = .ok home ∧ d.node? home = some .folder ∧
        name.utf8ByteSize ≤ maxNameSize := by
  obtain ⟨home, hhome, _, hlast⟩ := walk_of_append hwalk
  obtain ⟨hfolder, hstep⟩ := walkWith_cons_iff.1 hlast
  rcases hstep with ⟨hidle, -⟩ | ⟨hup, -⟩ | ⟨_, hdown, hsize, -⟩
  · cases hidle
  · cases hup
  · cases hdown
    exact ⟨home, hhome, hfolder, hsize⟩

theorem eq_of_walkWith_idles {jump : List String → List Step → Except IoError (List String)}
    (hidles : ∀ step ∈ steps, step.isIdle = true)
    (hwalk : d.walkWith jump here steps = .ok place) : place = here := by
  induction steps with
  | nil => exact (Except.ok.inj hwalk).symm
  | cons step steps ih =>
    have hidle := hidles step List.mem_cons_self
    obtain ⟨-, hstep⟩ := walkWith_cons_iff.1 hwalk
    rcases hstep with ⟨-, hrest⟩ | ⟨rfl, -⟩ | ⟨_, rfl, -⟩
    · exact ih (fun s hs => hidles s (List.mem_cons_of_mem _ hs)) hrest
    · cases hidle
    · cases hidle

/-- Where a route leads to something, its end stands in a folder, be it a link. -/
theorem exists_locate {r : Route} (h : d.follow r = .ok place) : ∃ own, d.locate r = .ok own := by
  by_cases hname : ∃ (base : Route) (name : String), r = base ++ [.down name]
  · obtain ⟨base, name, rfl⟩ := hname
    obtain ⟨haccept, hwalk⟩ := accept_of_follow h
    obtain ⟨home, hhome, hfolder, hsize⟩ := walk_of_concat hwalk
    obtain ⟨idles, hbase, hidles⟩ := base.trimmed_append_idles
    have haccept' : accept base = .ok () := accept_of_append haccept
    rw [hbase] at hhome haccept'
    obtain ⟨middle, hmiddle, _, hstay⟩ := walk_of_append hhome
    obtain rfl := eq_of_walkWith_idles hidles hstay
    have hparent : d.follow base.trimmed = .ok home := by
      rw [follow, accept_of_append haccept']
      exact hmiddle
    refine ⟨home ++ [name], ?_⟩
    rw [locate, List.getLast?_concat, Route.parent_concat]
    simp [bind, Except.bind, haccept, hparent, hfolder, Nat.not_lt.2 hsize]
  · refine ⟨place, ?_⟩
    rw [locate_eq_follow fun base name heq => hname ⟨base, name, heq⟩, h]

/-- The place of a name that leads to something is the name in some folder. -/
theorem exists_locate_of_follow (h : d.follow (Route.ofNames (way ++ [name])) = .ok place) :
    ∃ home, d.locate (Route.ofNames (way ++ [name])) = .ok (home ++ [name]) := by
  obtain ⟨own, hlocate⟩ := exists_locate h
  obtain ⟨home, -, -, rfl⟩ := locate_concat (Route.ofNames_concat way name ▸ hlocate)
  exact ⟨home, hlocate⟩

/-- The route to what was taken away leads nowhere. -/
theorem isPresent_without {base : Route} (h : d.locate (base ++ [.down name]) = .ok place) :
    (d.without place).isPresent (base ++ [.down name]) = false := by
  obtain ⟨folder, hbase, -, rfl⟩ := locate_concat h
  have hplace : folder ++ [name] ≠ [] := by simp
  unfold isPresent
  cases hstatus : (d.without (folder ++ [name])).status (base ++ [.down name]) with
  | error e => rfl
  | ok node =>
    obtain ⟨last, hfollow, -⟩ := follow_of_status hstatus
    have hleads := leads_of_follow hfollow
    obtain ⟨middle, hmiddle, -⟩ := hleads.split
    -- The folder that the route goes through is the one that it went through.
    obtain rfl := hbase.unique ((thinning_without hplace).sustains.leads hmiddle)
    refine absurd ?_ (hleads.ne_none hmiddle)
    rw [node?_without hplace, if_pos List.prefix_rfl]

/-! ## Other routes -/

/-- What stands on a tree does not stand below a file. -/
theorem IsTree.not_below_file (htree : d.IsTree) {content : Content} {time : Int}
    (hfile : d.node? place = some (.file content time)) {p : List String} (hp : d.node? p ≠ none)
    (hne : p ≠ place) : ¬ place <+: p := by
  intro hbelow
  rw [htree.folder hp hbelow hne.symm] at hfile
  cases hfile

/-- Where a file was taken away from a tree, all other routes lead where they led. -/
theorem follow_without (htree : d.IsTree) {content : Content} {time : Int}
    (hfile : d.node? place = some (.file content time)) {r : Route} {last : List String}
    (h : d.follow r = .ok last) (hne : last ≠ place) : (d.without place).follow r = .ok last := by
  have hplace : place ≠ [] := ne_nil_of_ne_folder (hfile.trans_ne nofun)
  have hadds : AddsAt (· = place) (d.without place) d := by
    intro p
    by_cases heq : p = place
    · exact .inr (.inr ⟨heq, content, time, heq ▸ hfile⟩)
    · by_cases hnone : d.node? p = none
      · exact .inr (.inl hnone)
      · have hout := htree.not_below_file hfile hnone heq
        exact .inl (node?_without_outside hplace hout).symm
  exact (hadds.follow h).resolve_right hne

end Gazetteer.Disk
