import OtlpClient.Config.Signals
import OtlpClient.Support.Cut
import OtlpClient.Support.Percent

/-!
# Config — headers as a text

The texts that `_parse_headers` reads a mapping from, with `urllib.parse.unquote`.

* `HeaderEntries`: every way to write a mapping, entry by entry.
* `parsePair_entry`, `parsePair_malformed`: one round of the loop.
* `parse_headers_inverts`: the mapping is read back from it, and when a text is refused.
-/

namespace OtlpClient

/-! ### Every way to write a mapping -/

/-- What may stand for itself in a key. -/
def IsRawKey (c : Char) : Prop := c ≠ ',' ∧ c ≠ '%' ∧ c ≠ '='

/-- What may stand for itself in a value: a `=` too. -/
def IsRawValue (c : Char) : Prop := c ≠ ',' ∧ c ≠ '%'

/-- White space, or nothing. -/
def IsBlankText (cs : List Char) : Prop := ∀ c ∈ cs, isBlank c = true

/-- An item, percent-encoded, with white space around it and around its key and its value. -/
inductive HeaderEntry : String × String → List Char → Prop where
  | mk {key value : String} {k v before afterKey beforeValue after : List Char}
      (hkey : Encoded IsRawKey key.toList k) (hk : IsTrim k)
      (hvalue : Encoded IsRawValue value.toList v) (hv : IsTrim v)
      (hbefore : IsBlankText before) (hafterKey : IsBlankText afterKey)
      (hbeforeValue : IsBlankText beforeValue) (hafter : IsBlankText after) :
      HeaderEntry (key, value) (before ++ k ++ afterKey ++ '=' :: (beforeValue ++ v ++ after))

/-- The items one after the other, and blank entries among them. -/
inductive HeaderEntries : Headers → List (List Char) → Prop where
  | nil : HeaderEntries [] []
  | blank {headers : Headers} {entry : List Char} {entries : List (List Char)}
      (hentry : IsBlankText entry) (h : HeaderEntries headers entries) :
      HeaderEntries headers (entry :: entries)
  | item {kv : String × String} {headers : Headers} {entry : List Char}
      {entries : List (List Char)} (hentry : HeaderEntry kv entry)
      (h : HeaderEntries headers entries) : HeaderEntries (kv :: headers) (entry :: entries)

/-- The entries, with commas between them. -/
def headerText (entries : List (List Char)) : String := String.ofList ([','].intercalate entries)

/-- An entry that says something, and has no `=`. -/
def IsMalformed (entry : List Char) : Prop := ¬ IsBlankText entry ∧ '=' ∉ entry

/-! ### One entry -/

variable {lib : ConfigLib} {headers : Headers} {entry : List Char}

theorem strip_isEmpty : (strip (String.ofList entry)).isEmpty = true ↔ IsBlankText entry := by
  rw [String.isEmpty_iff, strip_eq, String.toList_ofList, IsBlankText, ← trim_eq_nil,
    String.ofList_eq_empty_iff]

theorem partitionPair_eq (pair : String) : partitionPair pair =
    (cut '=' pair.toList).map fun kv => (String.ofList kv.1, String.ofList kv.2) := by
  unfold partitionPair cut
  cases pair.toList.dropWhile (· != '=') <;> rfl

theorem parsePair_blank (h : IsBlankText entry) :
    parsePair lib headers (String.ofList entry) = .ok headers := by
  rw [parsePair, if_pos (strip_isEmpty.mpr h)]

theorem parsePair_malformed (h : IsMalformed entry) :
    parsePair lib headers (String.ofList entry) =
      .error (.config ("malformed header entry " ++ lib.repr (String.ofList entry) ++
        ", expected key=value")) := by
  rw [parsePair, if_neg (mt strip_isEmpty.mp h.1), partitionPair_eq, String.toList_ofList,
    cut_eq_none.mpr h.2]
  rfl

/-- What an entry with a `=` sets. -/
theorem parsePair_cut {key value : List Char} (h : '=' ∉ key) :
    parsePair lib headers (String.ofList (key ++ '=' :: value)) =
      .ok (Dict.set headers (lib.unquote (String.ofList (trim key)))
        (lib.unquote (String.ofList (trim value)))) := by
  have hblank : ¬ IsBlankText (key ++ '=' :: value) := fun hb =>
    absurd (hb '=' (by simp)) (by decide)
  rw [parsePair, if_neg (mt strip_isEmpty.mp hblank), partitionPair_eq, String.toList_ofList,
    cut_append h]
  dsimp only [Option.map_some]
  rw [strip_eq, strip_eq, String.toList_ofList, String.toList_ofList]

/-- The separators are no hex digits and no white space. -/
theorem notMem_encoded {raw : Char → Prop} {cs text : List Char} {sep : Char}
    (h : Encoded raw cs text) (hraw : ¬ raw sep) (hsep : sep ≠ '%' ∧ hexValue? sep = none) :
    sep ∉ text := fun hmem =>
  (h.mem hmem).elim hraw fun hmem => hmem.elim hsep.1 fun hne => hne hsep.2

theorem notMem_blank {cs : List Char} {sep : Char} (h : IsBlankText cs)
    (hsep : isBlank sep = false) : sep ∉ cs := fun hmem => by
  rw [h sep hmem] at hsep
  cases hsep

/-- An item is read back. -/
theorem parsePair_entry {kv : String × String} (h : HeaderEntry kv entry) :
    parsePair { lib with unquote } headers (String.ofList entry) =
      .ok (Dict.set headers kv.1 kv.2) := by
  obtain ⟨hkey, hk, hvalue, hv, hbefore, hafterKey, hbeforeValue, hafter⟩ := h
  rename_i key value k v before afterKey beforeValue after
  have hsep : '=' ∉ before ++ k ++ afterKey := by
    simp only [List.mem_append, not_or]
    exact ⟨⟨notMem_blank hbefore (by decide), notMem_encoded hkey (fun h => h.2.2 rfl) (by decide)⟩,
      notMem_blank hafterKey (by decide)⟩
  rw [parsePair_cut hsep, trim_pad hbefore hafterKey hk, trim_pad hbeforeValue hafter hv]
  dsimp only [unquote]
  rw [String.toList_ofList, String.toList_ofList, unquote_encoded (fun _ h => h.2.1) hkey,
    unquote_encoded (fun _ h => h.2) hvalue, String.ofList_toList, String.ofList_toList]

/-- No entry has a comma in it. -/
theorem HeaderEntries.notMem {entries : List (List Char)} (h : HeaderEntries headers entries) :
    ∀ entry ∈ entries, ',' ∉ entry := by
  induction h with
  | nil => exact nofun
  | blank hentry _ ih =>
      exact List.forall_mem_cons.mpr ⟨notMem_blank hentry (by decide), ih⟩
  | item hentry _ ih =>
      refine List.forall_mem_cons.mpr ⟨?_, ih⟩
      obtain ⟨hkey, -, hvalue, -, hbefore, hafterKey, hbeforeValue, hafter⟩ := hentry
      simp only [List.mem_append, List.mem_cons, not_or]
      exact ⟨⟨⟨notMem_blank hbefore (by decide),
        notMem_encoded hkey (fun h => h.1 rfl) (by decide)⟩, notMem_blank hafterKey (by decide)⟩,
        by decide, ⟨notMem_blank hbeforeValue (by decide),
        notMem_encoded hvalue (fun h => h.1 rfl) (by decide)⟩, notMem_blank hafter (by decide)⟩

/-! ### The loop -/

/-- The text is split where it was joined: nothing at all is one blank entry. -/
theorem parseHeaders_headerText {entries : List (List Char)} (h : ∀ entry ∈ entries, ',' ∉ entry) :
    parseHeaders lib (headerText entries) =
      (entries.map String.ofList).foldlM (parsePair lib) [] := by
  rw [parseHeaders, headerText, String.toList_ofList]
  cases entries with
  | nil => rfl
  | cons entry entries => rw [List.splitOn_intercalate ',' h (List.cons_ne_nil _ _)]

/-- The entries add their items to those that were read before them. -/
theorem foldlM_entries {entries : List (List Char)} (h : HeaderEntries headers entries)
    {before : Headers} (hnodup : (Dict.keys (before ++ headers)).Nodup) :
    (entries.map String.ofList).foldlM (parsePair { lib with unquote }) before =
      .ok (before ++ headers) := by
  induction h generalizing before with
  | nil =>
      rw [List.append_nil]
      rfl
  | blank hentry _ ih =>
      rw [List.map_cons, List.foldlM_cons, parsePair_blank hentry, ok_bind]
      exact ih hnodup
  | @item kv headers entry entries hentry _ ih =>
      have hnew : kv.1 ∉ Dict.keys before := by
        rw [Dict.keys, List.map_append, List.nodup_append] at hnodup
        exact fun hmem => hnodup.2.2 _ hmem _ List.mem_cons_self rfl
      rw [List.map_cons, List.foldlM_cons, parsePair_entry hentry, ok_bind, Dict.set_new hnew,
        ih (by rwa [List.append_assoc]), List.append_assoc]
      rfl

/-- An entry that is not malformed is read. -/
theorem parsePair_ok (h : ¬ IsMalformed entry) :
    ∃ headers', parsePair lib headers (String.ofList entry) = .ok headers' := by
  by_cases hblank : IsBlankText entry
  · exact ⟨headers, parsePair_blank hblank⟩
  · have hsep : '=' ∈ entry := not_not.mp fun hsep => h ⟨hblank, hsep⟩
    obtain ⟨key, value, rfl, hkey⟩ := List.eq_append_cons_of_mem hsep
    exact ⟨_, parsePair_cut hkey⟩

/-- The loop ends at a malformed entry, or at the end of the text. -/
theorem foldlM_outcome (lib : ConfigLib) (entries : List (List Char)) (before : Headers) :
    (∃ entry ∈ entries, IsMalformed entry) ∧
        (∃ message, (entries.map String.ofList).foldlM (parsePair lib) before =
          .error (.config message)) ∨
      (∀ entry ∈ entries, ¬ IsMalformed entry) ∧
        ∃ headers, (entries.map String.ofList).foldlM (parsePair lib) before = .ok headers := by
  induction entries generalizing before with
  | nil => exact Or.inr ⟨nofun, before, rfl⟩
  | cons entry entries ih =>
      rw [List.map_cons, List.foldlM_cons]
      by_cases hentry : IsMalformed entry
      · rw [parsePair_malformed hentry]
        exact Or.inl ⟨⟨entry, List.mem_cons_self, hentry⟩, _, rfl⟩
      · obtain ⟨headers, hheaders⟩ := @parsePair_ok lib before _ hentry
        rw [hheaders, ok_bind]
        rcases ih headers with ⟨⟨entry', hmem, hentry'⟩, hraised⟩ | ⟨hentries, hread⟩
        · exact Or.inl ⟨⟨entry', List.mem_cons_of_mem _ hmem, hentry'⟩, hraised⟩
        · exact Or.inr ⟨List.forall_mem_cons.mpr ⟨hentry, hentries⟩, hread⟩

/-- A text is refused exactly where an entry of it is malformed. -/
theorem parseHeaders_refused_iff (lib : ConfigLib) (raw : String) :
    (∃ message, parseHeaders lib raw = .error (.config message)) ↔
      ∃ entry ∈ raw.toList.splitOn ',', IsMalformed entry := by
  rcases foldlM_outcome lib (raw.toList.splitOn ',') [] with
    ⟨hentry, hraised⟩ | ⟨hentries, headers, hread⟩
  · exact iff_of_true hraised hentry
  · refine iff_of_false ?_ fun ⟨entry, hmem, hentry⟩ => hentries entry hmem hentry
    rintro ⟨message, hraised⟩
    exact absurd (hread.symm.trans hraised) nofun

/-- **Headers as a text.**  Every mapping is read back from every way to write it; and a text is
refused exactly where an entry of it says something and has no `=`. -/
theorem parse_headers_inverts (lib : ConfigLib) :
    (∀ headers entries, (Dict.keys headers).Nodup → HeaderEntries headers entries →
      parseHeaders { lib with unquote } (headerText entries) = .ok headers) ∧
    ∀ raw, (∃ message, parseHeaders { lib with unquote } raw = .error (.config message)) ↔
      ∃ entry ∈ raw.toList.splitOn ',', IsMalformed entry := by
  refine ⟨fun headers entries hnodup h => ?_, parseHeaders_refused_iff _⟩
  rw [parseHeaders_headerText h.notMem]
  exact foldlM_entries h hnodup

/-- A comma in a key and a `=` in a value, white space, and a blank entry. -/
theorem parse_headers_inverts_comma :
    parseHeaders { plainLib with unquote } " %2C = a=, " = .ok [(",", "a=")] := by
  have htext : headerText [" %2C = a=".toList, [' ']] = " %2C = a=, " := by decide
  have hescapes : Escapes (String.utf8EncodeChar ',') ['%', '2', 'C'] := .cons rfl rfl .nil
  have hkey : Encoded IsRawKey [','] ['%', '2', 'C'] := .escaped hescapes .nil
  have hvalue : Encoded IsRawValue ['a', '='] ['a', '='] :=
    .raw ⟨by decide, by decide⟩ (.raw ⟨by decide, by decide⟩ .nil)
  have hblank : IsBlankText [' '] := List.forall_mem_singleton.mpr (by decide)
  have hentry : HeaderEntry (",", "a=") " %2C = a=".toList :=
    @HeaderEntry.mk "," "a=" _ _ [' '] [' '] [' '] [] hkey (by decide) hvalue (by decide) hblank
      hblank hblank nofun
  rw [← htext]
  exact (parse_headers_inverts plainLib).1 _ _ (by decide) (.item hentry (.blank hblank .nil))

/-! ### A text for every mapping -/

/-- No hex digit is white space. -/
theorem hexValue?_blank {c : Char} (h : isBlank c = true) : hexValue? c = none := by
  have hupper : ¬ (c.val ≥ 'A'.val ∧ c.val ≤ 'Z'.val) := by
    intro hupper
    simp [isBlank, isSpace] at h
    simp [UInt32.le_iff_toNat_le] at hupper
    omega
  have hlower : c.toLower = c := dif_neg hupper
  rw [hexValue?, hlower, List.idxOf?_eq_none_iff]
  intro hmem
  have hdigits : hexDigits.all (fun c => !isBlank c) = true := by decide
  simpa [h] using List.all_eq_true.mp hdigits c hmem

/-- A text is written without white space where none stands for itself. -/
theorem isTrim_encoded {raw : Char → Prop} {cs text : List Char} (h : Encoded raw cs text)
    (hraw : ∀ c, raw c → isBlank c = false) : IsTrim text := by
  refine isTrim_of_forall fun c hc => ?_
  rcases h.mem hc with hc | rfl | hc
  · exact hraw c hc
  · decide
  · by_contra hblank
    exact hc (hexValue?_blank (Bool.not_eq_false _ ▸ hblank))

/-- What always is safe may stand for itself anywhere. -/
theorem alwaysSafe_raw {c : Char} (h : alwaysSafe c = true) : IsRawKey c ∧ isBlank c = false := by
  refine ⟨⟨?_, ?_, ?_⟩, ?_⟩
  · rintro rfl
    exact absurd h (by decide)
  · rintro rfl
    exact absurd h (by decide)
  · rintro rfl
    exact absurd h (by decide)
  · by_contra hblank
    simp [alwaysSafe] at h
    simp [isBlank, isSpace] at hblank
    rcases h with h | rfl | rfl | rfl | rfl
    · omega
    all_goals exact absurd hblank (by decide)

/-- `quote` writes an item. -/
theorem headerEntry_quote (kv : String × String) :
    HeaderEntry kv (quote [] kv.1.toList ++ '=' :: quote [] kv.2.toList) := by
  have hencoded : ∀ cs, Encoded (fun c => alwaysSafe c = true) cs (quote [] cs) := fun cs =>
    (encoded_quote (fun _ hc => absurd hc List.not_mem_nil) cs).mono fun _ hc =>
      hc.resolve_right List.not_mem_nil
  have htrim : ∀ cs, IsTrim (quote [] cs) := fun cs =>
    isTrim_encoded (hencoded cs) fun _ hc => (alwaysSafe_raw hc).2
  have hentry := @HeaderEntry.mk kv.1 kv.2 _ _ [] [] [] []
    ((hencoded kv.1.toList).mono fun _ hc => (alwaysSafe_raw hc).1) (htrim _)
    ((hencoded kv.2.toList).mono fun _ hc => (alwaysSafe_raw hc).1.imp_right And.left) (htrim _)
    nofun nofun nofun nofun
  simpa using hentry

/-- Every mapping can be written. -/
theorem headerEntries_quote (headers : Headers) : HeaderEntries headers
    (headers.map fun kv => quote [] kv.1.toList ++ '=' :: quote [] kv.2.toList) := by
  induction headers with
  | nil => exact .nil
  | cons kv headers ih => exact .item (headerEntry_quote kv) ih

end OtlpClient
