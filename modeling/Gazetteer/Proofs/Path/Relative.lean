import Gazetteer.Path
import Gazetteer.Proofs.Text.Cutting

/-!
# Normal paths

Normalising takes white space, leading `./` and leading slashes off a path and turns backslashes
round. A path that has none of them is normal already (`relative_eq_self_iff`). Normalising is not
idempotent: once backslashes are slashes, a path may begin with white space or with `./` again.
-/

namespace Gazetteer

namespace Text

theorem exchange_of_not_mem {old new : Char} {cs : List Char} (h : old ∉ cs) :
    exchange old new cs = cs := by
  induction cs with
  | nil => rfl
  | cons c cs ih =>
    have hc : c ≠ old := fun heq => h (heq ▸ List.mem_cons_self)
    have hcs : exchange old new cs = cs := ih fun hmem => h (List.mem_cons_of_mem _ hmem)
    rw [exchange] at hcs ⊢
    rw [List.map_cons, if_neg hc, hcs]

theorem not_mem_exchange {old new : Char} (hne : old ≠ new) (cs : List Char) :
    old ∉ exchange old new cs := by
  intro hmem
  obtain ⟨c, -, hc⟩ := List.mem_map.1 hmem
  split at hc
  · exact hne hc.symm
  next hold => exact hold hc

theorem splitOn_append (sep : Char) (cs rest : List Char) :
    splitOn sep (cs ++ sep :: rest) = splitOn sep cs ++ splitOn sep rest := by
  induction cs with
  | nil =>
    have hfirst : splitOn sep (sep :: rest) = [] :: splitOn sep rest := by rw [splitOn, if_pos rfl]
    exact hfirst
  | cons c cs ih =>
    rw [List.cons_append, splitOn, splitOn, ih]
    split
    · rw [List.cons_append]
    · -- The first piece grows by the character, and there is a first piece.
      cases hcs : splitOn sep cs with
      | nil => exact absurd hcs (splitOn_ne_nil sep cs)
      | cons piece pieces => rfl

theorem trimStart_suffix (cs : List Char) : trimStart cs <:+ cs := List.dropWhile_suffix _

theorem length_trim_le (cs : List Char) :
    (trim cs).length ≤ (trimStart cs).length ∧ (trimStart cs).length ≤ cs.length :=
  ⟨List.IsPrefix.length_le <| trimEnd_prefix _, (trimStart_suffix cs).length_le⟩

end Text

namespace Path

theorem dropHere_suffix (cs : List Char) : dropHere cs <:+ cs := by
  fun_induction dropHere cs with
  | case1 cs ih => exact ih.trans ⟨['.', '/'], rfl⟩
  | case2 cs => exact List.suffix_rfl

theorem dropLead_suffix (cs : List Char) : dropLead cs <:+ cs :=
  (List.dropWhile_suffix _).trans (dropHere_suffix cs)

theorem toList_relative (path : String) :
    (relative path).toList = dropLead (unify path.toList) := by
  rw [relative, String.toList_ofList]

theorem relative_eq_self {path : String} (hbackslash : '\\' ∉ path.toList)
    (hhead : ∀ c, path.toList.head? = some c → Text.isBlank c = false)
    (hlast : ∀ c, path.toList.getLast? = some c → Text.isBlank c = false)
    (hhere : ¬ ['.', '/'] <+: path.toList) (hslash : path.toList.head? ≠ some '/') :
    relative path = path := by
  have hunify : unify path.toList = path.toList := by
    rw [unify, Text.trim_of_ends hhead hlast, Text.exchange_of_not_mem hbackslash]
  have hlead : dropLead path.toList = path.toList := by
    rw [dropLead, dropHere_of_not_isPrefix hhere]
    cases hcs : path.toList with
    | nil => rfl
    | cons c cs =>
      rw [hcs] at hslash
      exact List.dropWhile_cons_of_neg (by simpa using hslash)
  rw [relative, hunify, hlead, String.ofList_toList]

/-! ## What is normal -/

theorem not_mem_relative (path : String) : '\\' ∉ (relative path).toList := by
  rw [toList_relative]
  intro hmem
  exact Text.not_mem_exchange (by decide) _ ((dropLead_suffix _).subset hmem)

theorem getLast?_relative {path : String} {c : Char}
    (h : (relative path).toList.getLast? = some c) : Text.isBlank c = false := by
  rw [toList_relative] at h
  obtain ⟨lead, hlead⟩ := dropLead_suffix (unify path.toList)
  have hlast : (unify path.toList).getLast? = some c := by
    rw [← hlead, List.getLast?_append, h]
    rfl
  rw [unify, Text.exchange, List.getLast?_map] at hlast
  cases htrim : (Text.trim path.toList).getLast? with
  | none =>
    rw [htrim] at hlast
    cases hlast
  | some last =>
    rw [htrim] at hlast
    have hblank := Text.getLast?_trimEnd htrim
    obtain rfl := Option.some.inj hlast
    -- A slash that was a backslash is no white space.
    show Text.isBlank (if last = '\\' then '/' else last) = false
    split
    · decide
    · exact hblank

theorem head?_relative_ne (path : String) : (relative path).toList.head? ≠ some '/' := by
  rw [toList_relative]
  exact head?_dropLead_ne _

/-- A path is normal when it has no backslash, no white space at its ends and neither `./` nor a
slash in front. -/
theorem relative_eq_self_iff {path : String} : relative path = path ↔
    '\\' ∉ path.toList ∧ (∀ c, path.toList.head? = some c → Text.isBlank c = false) ∧
      (∀ c, path.toList.getLast? = some c → Text.isBlank c = false) ∧
      ¬ ['.', '/'] <+: path.toList ∧ path.toList.head? ≠ some '/' := by
  constructor
  · intro h
    have hlist : dropLead (unify path.toList) = path.toList := by rw [← toList_relative, h]
    -- Nothing can have been taken off, as the length is the same in the end.
    have hlead : (dropLead (unify path.toList)).length ≤ (unify path.toList).length :=
      (dropLead_suffix _).length_le
    have hunify : (unify path.toList).length = (Text.trim path.toList).length := by
      rw [unify, Text.exchange, List.length_map]
    obtain ⟨htrim, hstart⟩ := Text.length_trim_le path.toList
    have hlength := congrArg List.length hlist
    have hstart : Text.trimStart path.toList = path.toList :=
      (Text.trimStart_suffix _).eq_of_length (by omega)
    have hunify : dropLead (unify path.toList) = unify path.toList :=
      (dropLead_suffix _).eq_of_length (by omega)
    have hbackslash := not_mem_relative path
    have hslash := head?_relative_ne path
    rw [h] at hbackslash hslash
    refine ⟨hbackslash, fun c hc => ?_, fun c hc => ?_, ?_, hslash⟩
    · exact Text.head?_trimStart (hstart.symm ▸ hc)
    · exact getLast?_relative (h.symm ▸ hc)
    · rintro ⟨rest, hrest⟩
      rw [hunify] at hlist
      rw [hlist, ← hrest] at hunify
      have hshort : (dropLead rest).length ≤ rest.length := (dropLead_suffix rest).length_le
      have hsame : (dropLead rest).length = (['.', '/'] ++ rest).length :=
        congrArg List.length hunify
      rw [List.length_append, List.length_cons, List.length_cons] at hsame
      omega
  · rintro ⟨hbackslash, hhead, hlast, hhere, hslash⟩
    exact relative_eq_self hbackslash hhead hlast hhere hslash

/-- A normalised path is normal unless it begins with white space or `./`. -/
theorem relative_relative_iff {path : String} : relative (relative path) = relative path ↔
    (∀ c, (relative path).toList.head? = some c → Text.isBlank c = false) ∧
      ¬ ['.', '/'] <+: (relative path).toList := by
  rw [relative_eq_self_iff]
  constructor
  · rintro ⟨-, hhead, -, hhere, -⟩
    exact ⟨hhead, hhere⟩
  · rintro ⟨hhead, hhere⟩
    exact ⟨not_mem_relative path, hhead, fun c hc => getLast?_relative hc, hhere,
      head?_relative_ne path⟩

example : relative "\\ a.ts" = " a.ts" ∧ relative " a.ts" = "a.ts" := by decide

/-! ## Paths made of names -/

/-- Whether a name can stand in a folder of a file system. -/
def IsName (name : String) : Prop := name ≠ "" ∧ '/' ∉ name.toList ∧ name ≠ "." ∧ name ≠ ".."

instance (name : String) : Decidable (IsName name) := inferInstanceAs (Decidable (_ ∧ _))

variable {names : List String}

theorem toList_intercalate_cons (name next : String) (names : List String) :
    ("/".intercalate (name :: next :: names)).toList =
      name.toList ++ '/' :: ("/".intercalate (next :: names)).toList := by
  simp only [String.toList_intercalate, List.map_cons, List.intercalate_cons_cons]
  simp

theorem exists_toList_intercalate (name : String) (names : List String) : ∃ tail,
    ("/".intercalate (name :: names)).toList = name.toList ++ tail := by
  cases names with
  | nil => exact ⟨[], by rw [String.intercalate_singleton, List.append_nil]⟩
  | cons next names => exact ⟨_, toList_intercalate_cons name next names⟩

theorem exists_toList_intercalate_concat (names : List String) (name : String) : ∃ start,
    ("/".intercalate (names ++ [name])).toList = start ++ name.toList := by
  cases names with
  | nil => exact ⟨[], by rw [List.nil_append, String.intercalate_singleton, List.nil_append]⟩
  | cons first names =>
    refine ⟨("/".intercalate (first :: names) ++ "/").toList, ?_⟩
    rw [String.intercalate_append_of_ne_nil (List.cons_ne_nil _ _) (List.cons_ne_nil _ _),
      String.intercalate_singleton, String.toList_append]

/-- Names are cut apart again where they were joined. -/
theorem splitOn_intercalate (hne : names ≠ []) (h : ∀ name ∈ names, IsName name) :
    Text.splitOn '/' ("/".intercalate names).toList = names.map String.toList := by
  induction names with
  | nil => exact absurd rfl hne
  | cons name names ih =>
    have hname := (h name List.mem_cons_self).2.1
    cases names with
    | nil =>
      rw [String.intercalate_singleton]
      exact Text.splitOn_of_not_mem hname
    | cons next names =>
      have hrest := ih nofun fun other hother => h other (List.mem_cons_of_mem _ hother)
      rw [toList_intercalate_cons, Text.splitOn_append_cons hname, hrest]
      rfl

theorem componentsOf_names (h : ∀ name ∈ names, IsName name) :
    componentsOf (names.map String.toList) =
      names.map fun name => Component.name name.toList := by
  induction names with
  | nil => rfl
  | cons name names ih =>
    obtain ⟨hempty, -, hhere, hup⟩ := h name List.mem_cons_self
    have hup : name.toList ≠ ['.', '.'] := fun heq => hup (String.toList_inj.1 heq)
    have hrest := ih fun other hother => h other (List.mem_cons_of_mem _ hother)
    have hplain : ¬ (name.toList = [] ∨ name.toList = ['.']) :=
      not_or.2 ⟨fun heq => hempty (String.toList_inj.1 heq), fun heq =>
        hhere (String.toList_inj.1 heq)⟩
    rw [componentsOf] at hrest ⊢
    rw [List.map_cons, List.filterMap_cons, if_neg hplain, if_neg hup, hrest]
    rfl

theorem components_append {start : List Char} (path : List Char)
    (hroot : start.head? = some '/') : components (start ++ '/' :: path) =
      components start ++ componentsOf (Text.splitOn '/' path) := by
  obtain ⟨rest, rfl⟩ : ∃ rest, start = '/' :: rest := by
    cases start with
    | nil => cases hroot
    | cons c rest => exact ⟨rest, by rw [Option.some.inj hroot]⟩
  have hslash : ∀ cs, components ('/' :: cs) = .root :: componentsOf (Text.splitOn '/' cs) := by
    intro cs
    have hpieces : Text.splitOn '/' ('/' :: cs) = [] :: Text.splitOn '/' cs := by
      rw [Text.splitOn, if_pos rfl]
    unfold components
    rw [hpieces]
    cases hcs : Text.splitOn '/' cs with
    | nil => exact absurd hcs (Text.splitOn_ne_nil '/' cs)
    | cons piece pieces => rfl
  rw [List.cons_append, hslash, hslash, Text.splitOn_append, List.cons_append, componentsOf,
    componentsOf, componentsOf, List.filterMap_append]

theorem joinWith_eq (pieces : List (List Char)) :
    Text.joinWith ['/'] pieces = "/".toList.intercalate pieces := by
  induction pieces with
  | nil => rfl
  | cons piece pieces ih =>
    cases pieces with
    | nil => simp [Text.joinWith, List.intercalate]
    | cons next pieces =>
      rw [Text.joinWith, ih, List.intercalate_cons_cons]
      · rfl
      · exact nofun

/-- Below a root, the path from it consists of the names that lead there. -/
theorem relativeTo_names {root : String} (hroot : root.toList.head? = some '/')
    (h : ∀ name ∈ names, IsName name) :
    relativeTo root (root ++ "/" ++ "/".intercalate names) = "/".intercalate names := by
  have hparts : componentsOf (Text.splitOn '/' ("/".intercalate names).toList) =
      names.map fun name => Component.name name.toList := by
    cases names with
    | nil => rfl
    | cons name names =>
      rw [splitOn_intercalate (List.cons_ne_nil name names) h, componentsOf_names h]
  have hcomponents : components (root ++ "/" ++ "/".intercalate names).toList =
      components root.toList ++ names.map fun name => Component.name name.toList := by
    rw [← hparts, ← components_append _ hroot]
    simp
  have hnames : (names.map fun name => Component.name name.toList).filterMap Component.name? =
      names.map String.toList := by
    rw [List.filterMap_map]
    show names.filterMap (some ∘ String.toList) = _
    rw [List.filterMap_eq_map]
  unfold relativeTo
  rw [hcomponents]
  simp only [List.isPrefixOf_iff_prefix, List.prefix_append, if_true, List.drop_left, hnames]
  rw [joinWith_eq, ← String.toList_intercalate, String.ofList_toList]

theorem intercalate_ne_empty (hne : names ≠ []) (h : ∀ name ∈ names, IsName name) :
    "/".intercalate names ≠ "" := by
  intro heq
  cases names with
  | nil => exact hne rfl
  | cons name names =>
    obtain ⟨tail, htail⟩ := exists_toList_intercalate name names
    rw [heq] at htail
    obtain ⟨hname, -⟩ := List.append_eq_nil_iff.1 htail.symm
    exact (h name List.mem_cons_self).1 (String.toList_inj.1 hname)

/-- Different names make different paths. -/
theorem intercalate_inj {others : List String} (h : ∀ name ∈ names, IsName name)
    (h' : ∀ name ∈ others, IsName name) (heq : "/".intercalate names = "/".intercalate others) :
    names = others := by
  by_cases hne : names = []
  · subst hne
    cases others with
    | nil => rfl
    | cons other others =>
      exact absurd heq.symm (intercalate_ne_empty (List.cons_ne_nil other others) h')
  · have hne' : others ≠ [] := by
      rintro rfl
      exact intercalate_ne_empty hne h heq
    have hpieces := splitOn_intercalate hne h
    rw [heq, splitOn_intercalate hne' h'] at hpieces
    exact (List.map_inj_right fun _ _ => String.toList_inj.1).1 hpieces.symm

/-- The path of names in front of which nothing can be taken off but white space. -/
theorem relative_intercalate_iff (h : ∀ name ∈ names, IsName name)
    (hlast : ∀ c, ("/".intercalate names).toList.getLast? = some c → Text.isBlank c = false) :
    relative ("/".intercalate names) = "/".intercalate names ↔
      '\\' ∉ ("/".intercalate names).toList ∧
        ∀ c, ("/".intercalate names).toList.head? = some c → Text.isBlank c = false := by
  rw [relative_eq_self_iff]
  have hfront : ¬ ['.', '/'] <+: ("/".intercalate names).toList ∧
      ("/".intercalate names).toList.head? ≠ some '/' := by
    cases names with
    | nil => simp
    | cons name names =>
      obtain ⟨hempty, hslash, hhere, -⟩ := h name List.mem_cons_self
      obtain ⟨tail, htail⟩ := exists_toList_intercalate name names
      rw [htail]
      cases hname : name.toList with
      | nil => exact absurd (String.toList_inj.1 hname) hempty
      | cons c cs =>
        rw [hname] at hslash
        refine ⟨fun hprefix => ?_, fun hhead => hslash (Option.some.inj hhead ▸ List.mem_cons_self)⟩
        obtain ⟨rfl, hrest⟩ := List.cons_prefix_cons.1 hprefix
        -- After the dot the name goes on, and not with a slash.
        cases cs with
        | nil => exact hhere (String.toList_inj.1 hname)
        | cons d cs =>
          obtain ⟨rfl, -⟩ := List.cons_prefix_cons.1 hrest
          exact hslash (List.mem_cons_of_mem _ List.mem_cons_self)
  exact ⟨fun ⟨hbackslash, hhead, _⟩ => ⟨hbackslash, hhead⟩,
    fun ⟨hbackslash, hhead⟩ => ⟨hbackslash, hhead, hlast, hfront⟩⟩

end Path
end Gazetteer
