import Gazetteer.Cache.Fingerprint

/-!
# What a fingerprint tells

A fingerprint tells the number of files up to a multiple of the size of a word, an upper bound of
their times that one of them reaches, and, where the files are known, the time of the settings. So a
later file, one more file, one file less and other settings all show.

The order of the files does not show, and any one change to the times does
(`ofTimes_tells_one_change`).
-/

namespace Gazetteer.Cache.Fingerprint

variable {times times' : List UInt64} {settings settings' : Option UInt64}

/-! ## Files one after the other -/

theorem fileCount_foldl (times : List UInt64) (f : Fingerprint) :
    (times.foldl addFile f).fileCount = f.fileCount + .ofNat times.length := by
  induction times generalizing f with
  | nil => simp
  | cons t times ih =>
    rw [List.foldl_cons, ih, List.length_cons]
    show f.fileCount + 1 + _ = _
    rw [Nat.add_comm times.length 1, UInt64.ofNat_add, UInt64.add_assoc]
    rfl

theorem mtimeXor_foldl (times : List UInt64) (f : Fingerprint) :
    (times.foldl addFile f).mtimeXor = times.foldl (· ^^^ ·) f.mtimeXor := by
  induction times generalizing f with
  | nil => rfl
  | cons t times ih => exact ih _

theorem le_max_left (a b : UInt64) : a ≤ max a b := by
  show a ≤ if a ≤ b then b else a
  split
  next h => exact h
  next => exact UInt64.le_refl a

theorem le_max_right (a b : UInt64) : b ≤ max a b := by
  show b ≤ if a ≤ b then b else a
  split
  next => exact UInt64.le_refl b
  next h => exact UInt64.le_of_lt (UInt64.not_le.1 h)

theorem max_lt {a b c : UInt64} (ha : a < c) (hb : b < c) : max a b < c := by
  show (if a ≤ b then b else a) < c
  split
  · exact hb
  · exact ha

theorem le_maxMtime_foldl (times : List UInt64) (f : Fingerprint) :
    f.maxMtime ≤ (times.foldl addFile f).maxMtime := by
  induction times generalizing f with
  | nil => exact UInt64.le_refl _
  | cons t times ih => exact UInt64.le_trans (le_max_left f.maxMtime t) (ih (f.addFile t))

theorem maxMtime_foldl_lt {bound : UInt64} (times : List UInt64) (f : Fingerprint)
    (hf : f.maxMtime < bound) (h : ∀ t ∈ times, t < bound) :
    (times.foldl addFile f).maxMtime < bound := by
  induction times generalizing f with
  | nil => exact hf
  | cons t times ih =>
    exact ih _ (max_lt hf (h t List.mem_cons_self)) fun t' ht' => h t' (List.mem_cons_of_mem _ ht')

/-! ## The three numbers -/

theorem fileCount_ofTimes : (ofTimes times settings).fileCount = .ofNat times.length := by
  have hcount : (times.foldl addFile empty).fileCount = .ofNat times.length := by
    rw [fileCount_foldl]
    exact UInt64.zero_add _
  unfold ofTimes
  cases settings <;> exact hcount

theorem mtimeXor_ofTimes :
    (ofTimes times settings).mtimeXor = times.foldl (· ^^^ ·) 0 ^^^ settings.getD 0 := by
  have hxor := mtimeXor_foldl times empty
  unfold ofTimes
  cases settings with
  | none => exact hxor.trans UInt64.xor_zero.symm
  | some t => exact congrArg (· ^^^ t) hxor

theorem maxMtime_ofTimes :
    (ofTimes times settings).maxMtime = (times.foldl addFile empty).maxMtime := by
  unfold ofTimes
  cases settings <;> rfl

theorem le_maxMtime {t : UInt64} (h : t ∈ times) : t ≤ (ofTimes times settings).maxMtime := by
  rw [maxMtime_ofTimes]
  obtain ⟨before, after, rfl⟩ := List.append_of_mem h
  rw [List.foldl_append, List.foldl_cons]
  have hrest := le_maxMtime_foldl after ((before.foldl addFile empty).addFile t)
  exact UInt64.le_trans (le_max_right _ t) hrest

theorem maxMtime_lt {bound : UInt64} (hbound : 0 < bound) (h : ∀ t ∈ times, t < bound) :
    (ofTimes times settings).maxMtime < bound := by
  rw [maxMtime_ofTimes]
  exact maxMtime_foldl_lt times empty hbound h

/-! ## Equal fingerprints -/

theorem foldl_xor_inj {a b : UInt64} :
    times.foldl (· ^^^ ·) a = times.foldl (· ^^^ ·) b ↔ a = b := by
  induction times generalizing a b with
  | nil => exact Iff.rfl
  | cons t times ih => exact ih.trans (UInt64.xor_left_inj t)

/-- Files whose number a word can hold are as many as those with the same fingerprint. -/
theorem length_eq_of_eq (h : ofTimes times settings = ofTimes times' settings')
    (hcount : times.length < UInt64.size) (hcount' : times'.length < UInt64.size) :
    times.length = times'.length := by
  have heq := congrArg (fun f => f.fileCount.toNat) h
  simp only [fileCount_ofTimes, UInt64.toNat_ofNat'] at heq
  rwa [Nat.mod_eq_of_lt hcount, Nat.mod_eq_of_lt hcount'] at heq

/-- One file more or less shows. -/
theorem ne_of_length_succ (h : times'.length = times.length + 1) :
    ofTimes times settings ≠ ofTimes times' settings' := by
  intro heq
  have hcount := congrArg (fun f => f.fileCount.toNat) heq
  simp only [fileCount_ofTimes, UInt64.toNat_ofNat', h] at hcount
  omega

/-- A file later than all those of another tree shows. -/
theorem ne_of_later {t : UInt64} (ht : t ∈ times') (hpositive : 0 < t)
    (hlater : ∀ t' ∈ times, t' < t) : ofTimes times settings ≠ ofTimes times' settings' := by
  intro heq
  have hmax : (ofTimes times settings).maxMtime < t := maxMtime_lt hpositive hlater
  rw [heq] at hmax
  exact UInt64.not_lt.2 (le_maxMtime ht) hmax

/-- The files being the same, the time of the settings shows; none counts as the time zero. -/
theorem settings_eq_of_eq (h : ofTimes times settings = ofTimes times settings') :
    settings.getD 0 = settings'.getD 0 := by
  have hxor := congrArg mtimeXor h
  rw [mtimeXor_ofTimes, mtimeXor_ofTimes] at hxor
  exact (UInt64.xor_right_inj _).1 hxor

/-- The other files and the settings being the same, the time of a file shows. -/
theorem time_eq_of_eq {before after : List UInt64} {t t' : UInt64}
    (h : ofTimes (before ++ t :: after) settings = ofTimes (before ++ t' :: after) settings) :
    t = t' := by
  have hxor := congrArg mtimeXor h
  rw [mtimeXor_ofTimes, mtimeXor_ofTimes, UInt64.xor_left_inj, List.foldl_append, List.foldl_append,
    List.foldl_cons, List.foldl_cons, foldl_xor_inj, UInt64.xor_right_inj] at hxor
  exact hxor

/-! ## Order -/

theorem toNat_max (a b : UInt64) : (max a b).toNat = max a.toNat b.toNat := by
  show (if a ≤ b then b else a).toNat = _
  split
  next h => exact (Nat.max_eq_right (UInt64.le_iff_toNat_le.1 h)).symm
  next h => exact (Nat.max_eq_left (UInt64.le_iff_toNat_le.1 (UInt64.le_of_lt
      (UInt64.not_le.1 h)))).symm

theorem max_right_comm (a b c : UInt64) : max (max a b) c = max (max a c) b := by
  apply UInt64.toNat_inj.1
  simp only [toNat_max]
  omega

theorem addFile_right_comm (f : Fingerprint) (s t : UInt64) :
    (f.addFile s).addFile t = (f.addFile t).addFile s := by
  have hxor : f.mtimeXor ^^^ s ^^^ t = f.mtimeXor ^^^ t ^^^ s := by
    rw [UInt64.xor_assoc, UInt64.xor_comm s t, ← UInt64.xor_assoc]
  simp only [addFile, hxor, max_right_comm f.maxMtime s t]

theorem ofTimes_perm (h : times.Perm times') :
    ofTimes times settings = ofTimes times' settings := by
  unfold ofTimes
  rw [h.foldl_eq' (fun s _ t _ f => addFile_right_comm f s t) empty]

/-! ## One change -/

/-- One change to the times that a fingerprint is taken of. -/
inductive OneChange : List UInt64 → Option UInt64 → List UInt64 → Option UInt64 → Prop where
  | inserted (before after : List UInt64) (t : UInt64) (settings : Option UInt64) :
    OneChange (before ++ after) settings (before ++ t :: after) settings
  | deleted (before after : List UInt64) (t : UInt64) (settings : Option UInt64) :
    OneChange (before ++ t :: after) settings (before ++ after) settings
  | replaced {t t' : UInt64} (before after : List UInt64) (settings : Option UInt64)
    (h : t ≠ t') : OneChange (before ++ t :: after) settings (before ++ t' :: after) settings
  | settings {t t' : UInt64} (times : List UInt64) (h : t ≠ t') :
    OneChange times (some t) times (some t')

theorem ne_of_oneChange (h : OneChange times settings times' settings') :
    ofTimes times settings ≠ ofTimes times' settings' := by
  cases h with
  | inserted before after t => exact ne_of_length_succ (by simp [Nat.add_assoc])
  | deleted before after t => exact (ne_of_length_succ (by simp [Nat.add_assoc])).symm
  | replaced before after settings hne => exact fun heq => hne (time_eq_of_eq heq)
  | settings times hne => exact fun heq => hne (settings_eq_of_eq heq)

/-- Files in another order have the same fingerprint. One file more or less, another time of one
file or another time of the settings gives another fingerprint, in whatever order the files then
are. -/
theorem ofTimes_tells_one_change :
    (∀ times times' settings, times.Perm times' →
      ofTimes times settings = ofTimes times' settings) ∧
    ∀ times settings times' settings', OneChange times settings times' settings' →
      ∀ reordered, times'.Perm reordered →
        ofTimes times settings ≠ ofTimes reordered settings' := by
  refine ⟨fun times times' settings => ofTimes_perm, ?_⟩
  intro times settings times' settings' hchange reordered hperm
  rw [← ofTimes_perm hperm]
  exact ne_of_oneChange hchange

theorem touched_file_and_settings_show :
    [10, 20, 35].Perm [35, 20, 10] ∧
    ofTimes [10, 20, 35] (some 7) = ofTimes [35, 20, 10] (some 7) ∧
    OneChange [10, 20, 35] (some 7) [10, 21, 35] (some 7) ∧
    ofTimes [10, 20, 35] (some 7) ≠ ofTimes [35, 10, 21] (some 7) ∧
    OneChange [10, 20, 35] (some 7) [10, 20, 35] (some 0) ∧
    ofTimes [10, 20, 35] (some 7) ≠ ofTimes [10, 20, 35] (some 0) := by
  obtain ⟨hperm, hchange⟩ := ofTimes_tells_one_change
  have hfile : OneChange [10, 20, 35] (some 7) [10, 21, 35] (some 7) :=
    .replaced [10] [35] (some 7) (by decide)
  have hsettings : OneChange [10, 20, 35] (some 7) [10, 20, 35] (some 0) :=
    .settings [10, 20, 35] (by decide)
  exact ⟨by decide, hperm _ _ _ (by decide), hfile, hchange _ _ _ _ hfile _ (by decide),
    hsettings, hchange _ _ _ _ hsettings _ (.refl _)⟩

/-- Two changes may make up for each other. -/
example : ofTimes [1, 2, 7] none = ofTimes [0, 3, 7] none := by decide

end Gazetteer.Cache.Fingerprint
