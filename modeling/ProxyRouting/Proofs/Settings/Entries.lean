import ProxyRouting.Proofs.Text.Blank
import ProxyRouting.Proofs.Text.Cut
import ProxyRouting.Proofs.Text.Digit
import ProxyRouting.Settings.Basic

/-!
# Lists of entries in one text

Entries are written between commas.  Blanks around an entry make no difference, nor do pieces of
blanks only, and nothing else is lost: a text lists its entries and no others, and the entries with
commas between them are a text of their own that lists them again.

    splitList (a ++ "," ++ b) = splitList a ++ splitList b
    splitList text = entries ↔ text = ",".intercalate pieces, where pieces list the entries
    splitList (",".intercalate (splitList text)) = splitList text
-/

namespace ProxyRouting

/-- What can be an entry. -/
def IsEntry (entry : String) : Prop :=
  entry ≠ "" ∧ Text.IsTrimmed entry.toList ∧ ',' ∉ entry.toList

/-- The pieces of a text that lists these entries: each entry has a piece of its own, which may have
blanks around the entry, and all other pieces are blank. -/
inductive Lists : List String → List String → Prop
  | nil : Lists [] []
  | blank {piece : String} {pieces entries : List String}
    (hblank : ∀ c ∈ piece.toList, Text.isBlank c = true) (rest : Lists pieces entries) :
    Lists (piece :: pieces) entries
  | entry {piece entry : String} {pieces entries : List String}
    (hpadded : Text.IsPadded entry.toList piece.toList) (rest : Lists pieces entries) :
    Lists (piece :: pieces) (entry :: entries)

/-! ## One piece -/

theorem splitList_of_notMem {piece : String} (h : ',' ∉ piece.toList) :
    splitList piece = if Text.trim piece.toList = [] then []
      else [String.ofList (Text.trim piece.toList)] := by
  unfold splitList
  rw [Text.splitAt_of_notMem h, List.map_singleton, List.filter_singleton]
  cases Text.trim piece.toList <;> rfl

theorem splitList_of_blank {piece : String} (h : ∀ c ∈ piece.toList, Text.isBlank c = true) :
    splitList piece = [] := by
  have hcomma : ',' ∉ piece.toList := fun hc => absurd (h _ hc) (by decide)
  rw [splitList_of_notMem hcomma, if_pos ((Text.trim_eq_nil_iff _).mpr h)]

theorem splitList_of_isPadded {piece entry : String} (hentry : IsEntry entry)
    (h : Text.IsPadded entry.toList piece.toList) : splitList piece = [entry] := by
  obtain ⟨hne, htrimmed, hcomma⟩ := hentry
  have htrim := h.trim_eq htrimmed
  have hpiece : ',' ∉ piece.toList := by
    obtain ⟨b, e, hb, he, hpiece⟩ := h
    rw [hpiece, List.mem_append, List.mem_append]
    rintro ((hc | hc) | hc)
    · exact absurd (hb _ hc) (by decide)
    · exact hcomma hc
    · exact absurd (he _ hc) (by decide)
  rw [splitList_of_notMem hpiece, htrim, if_neg (by simpa using hne), String.ofList_toList]

theorem of_mem_splitList {text entry : String} (h : entry ∈ splitList text) : IsEntry entry := by
  unfold splitList at h
  obtain ⟨trimmed, htrimmed, rfl⟩ := List.mem_map.mp h
  obtain ⟨hmem, hne⟩ := List.mem_filter.mp htrimmed
  obtain ⟨piece, hpiece, rfl⟩ := List.mem_map.mp hmem
  unfold IsEntry
  rw [String.toList_ofList]
  refine ⟨fun hempty => ?_, Text.isTrimmed_trim piece,
    fun hcomma => Text.notMem_of_mem_splitAt hpiece (Text.mem_of_mem_trim hcomma)⟩
  rw [String.ofList_eq_empty_iff] at hempty
  rw [hempty] at hne
  cases hne

/-- A list of hosts is empty where nothing but blanks stands between its commas. -/
theorem splitList_eq_nil_iff (text : String) : splitList text = [] ↔
    ∀ entry ∈ text.toList.splitOn ',', ∀ c ∈ entry, Text.isBlank c = true := by
  unfold splitList
  rw [Text.splitAt_eq_splitOn, List.map_eq_nil_iff, List.filter_eq_nil_iff, List.forall_mem_map]
  refine forall₂_congr fun entry _ => ?_
  rw [← Text.trim_eq_nil_iff]
  simp

/-! ## Pieces between commas -/

/-- All that is known of longer texts follows from this. -/
theorem splitList_append (a b : String) :
    splitList (a ++ "," ++ b) = splitList a ++ splitList b := by
  have htext : (a ++ "," ++ b).toList = a.toList ++ ',' :: b.toList := by simp
  unfold splitList
  rw [htext, Text.splitAt_append_mark, List.map_append, List.filter_append, List.map_append]

theorem splitList_intercalate (pieces : List String) :
    splitList (",".intercalate pieces) = pieces.flatMap splitList := by
  induction pieces with
  | nil => rfl
  | cons piece pieces ih =>
    cases pieces with
    | nil => simp
    | cons next pieces =>
      rw [String.intercalate_cons_cons, splitList_append, ih]
      exact List.flatMap_cons.symm

theorem Lists.flatMap_splitList {pieces entries : List String} (h : Lists pieces entries)
    (hentries : ∀ entry ∈ entries, IsEntry entry) : pieces.flatMap splitList = entries := by
  induction h with
  | nil => rfl
  | blank hblank _ ih => rw [List.flatMap_cons, splitList_of_blank hblank, ih hentries, List.nil_append]
  | entry hpadded _ ih =>
    rw [List.forall_mem_cons] at hentries
    rw [List.flatMap_cons, splitList_of_isPadded hentries.1 hpadded, ih hentries.2,
      List.singleton_append]

theorem lists_flatMap_splitList {pieces : List String}
    (h : ∀ piece ∈ pieces, ',' ∉ piece.toList) : Lists pieces (pieces.flatMap splitList) := by
  induction pieces with
  | nil => exact .nil
  | cons piece pieces ih =>
    rw [List.forall_mem_cons] at h
    rw [List.flatMap_cons, splitList_of_notMem h.1]
    by_cases hblank : Text.trim piece.toList = []
    · rw [if_pos hblank, List.nil_append]
      exact .blank ((Text.trim_eq_nil_iff _).mp hblank) (ih h.2)
    · rw [if_neg hblank, List.singleton_append]
      refine .entry ?_ (ih h.2)
      rw [String.toList_ofList]
      exact Text.isPadded_trim _

theorem lists_self (entries : List String) : Lists entries entries := by
  induction entries with
  | nil => exact .nil
  | cons entry entries ih => exact .entry ⟨[], [], by simp⟩ ih

/-- Every text is made of pieces without commas. -/
theorem exists_pieces (text : String) : ∃ pieces : List String,
    text = ",".intercalate pieces ∧ ∀ piece ∈ pieces, ',' ∉ piece.toList := by
  refine ⟨(Text.splitAt ',' text.toList).map String.ofList, ?_, ?_⟩
  · have hsame : String.toList ∘ String.ofList = id := funext fun _ => String.toList_ofList
    rw [← String.toList_inj, String.toList_intercalate, List.map_map, hsame, List.map_id,
      Text.splitAt_eq_splitOn]
    exact (List.intercalate_splitOn ',').symm
  · simp only [List.forall_mem_map, String.toList_ofList]
    exact fun piece hpiece => Text.notMem_of_mem_splitAt hpiece

/-! ## Texts and lists -/

/-- A text lists the entries of its pieces and no others. -/
theorem splitList_eq_iff {text : String} {entries : List String} : splitList text = entries ↔
    (∀ entry ∈ entries, IsEntry entry) ∧
      ∃ pieces, text = ",".intercalate pieces ∧ Lists pieces entries := by
  constructor
  · rintro rfl
    obtain ⟨pieces, htext, hcomma⟩ := exists_pieces text
    refine ⟨fun entry hentry => of_mem_splitList hentry, pieces, htext, ?_⟩
    rw [htext, splitList_intercalate]
    exact lists_flatMap_splitList hcomma
  · rintro ⟨hentries, pieces, rfl, hlists⟩
    rw [splitList_intercalate]
    exact hlists.flatMap_splitList hentries

/-- **Lists with commas.**  What stands on both sides of a comma is read apart.  A text is read as
just the list of the entries that its pieces list, whatever blanks are around them and whatever blank
pieces are between them; so a list of entries with commas between them is read as itself, and reading,
joining and reading again changes nothing. -/
theorem splitList_reads_lists :
    (∀ a b, splitList (a ++ "," ++ b) = splitList a ++ splitList b) ∧
      (∀ text, ∀ entry ∈ splitList text, IsEntry entry) ∧
      (∀ text entries, (∀ entry ∈ entries, IsEntry entry) → (splitList text = entries ↔
        ∃ pieces, text = ",".intercalate pieces ∧ Lists pieces entries)) ∧
      (∀ entries, (∀ entry ∈ entries, IsEntry entry) →
        splitList (",".intercalate entries) = entries) ∧
      ∀ text, splitList (",".intercalate (splitList text)) = splitList text := by
  have hjoin : ∀ entries, (∀ entry ∈ entries, IsEntry entry) →
      splitList (",".intercalate entries) = entries := fun entries hentries =>
    splitList_eq_iff.mpr ⟨hentries, entries, rfl, lists_self entries⟩
  refine ⟨splitList_append, fun text entry h => of_mem_splitList h, ?_, hjoin, fun text => ?_⟩
  · intro text entries hentries
    rw [splitList_eq_iff, and_iff_right hentries]
  · exact hjoin _ fun entry h => of_mem_splitList h

/-- Blanks of other scripts, a piece without anything and one of blanks. -/
theorem splitList_reads_lists_blanks :
    splitList " localhost ,,\u3000*.intranet.fr\t, " = ["localhost", "*.intranet.fr"] := by
  have hlocal : IsEntry "localhost" :=
    ⟨by decide, Text.isTrimmed_of_forall (Text.forall_mem (by decide)), by decide⟩
  have hintranet : IsEntry "*.intranet.fr" :=
    ⟨by decide, Text.isTrimmed_of_forall (Text.forall_mem (by decide)), by decide⟩
  have hentries : ∀ entry ∈ ["localhost", "*.intranet.fr"], IsEntry entry :=
    List.forall_mem_cons.mpr ⟨hlocal, List.forall_mem_singleton.mpr hintranet⟩
  have hspace : ∀ c ∈ [' '], Text.isBlank c = true := Text.forall_mem (by decide)
  have hwide : ∀ c ∈ ['\u3000'], Text.isBlank c = true := Text.forall_mem (by decide)
  have htab : ∀ c ∈ ['\t'], Text.isBlank c = true := Text.forall_mem (by decide)
  obtain ⟨-, -, hiff, -⟩ := splitList_reads_lists
  refine (hiff _ _ hentries).mpr
    ⟨[" localhost ", "", "\u3000*.intranet.fr\t", " "], by decide +kernel, ?_⟩
  refine .entry ⟨[' '], [' '], hspace, hspace, by decide +kernel⟩ (.blank (by simp) ?_)
  exact .entry ⟨['\u3000'], ['\t'], hwide, htab, by decide +kernel⟩ (.blank hspace .nil)

end ProxyRouting
