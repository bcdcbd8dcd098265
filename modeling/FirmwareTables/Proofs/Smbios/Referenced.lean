import FirmwareTables.Proofs.Text.Utf8
import FirmwareTables.Smbios.StringSet

set_option autoImplicit false

namespace FirmwareTables.Smbios

-- `front` is what was read of the current string; an empty one ends the set.
def readTexts : Bytes → Bytes → Option (List String × Bytes)
  | _, [] => none
  | front, b :: rest =>
    if b ≠ 0 then readTexts (front ++ [b]) rest
    else if front = [] then some ([], rest)
    else do
      let text ← Text.ofUtf8 front
      let (texts, rest) ← readTexts [] rest
      return (text :: texts, rest)

def readStrings (bytes : Bytes) : Option (List String × Bytes) :=
  if bytes.take 2 = [0, 0] then some ([], bytes.drop 2) else readTexts [] bytes

def stringAt (texts : List String) (index : UInt8) : Option String :=
  if index = 0 then none else texts[index.toNat - 1]?

def Resolves (bytes : Bytes) (index : UInt8) (text : String) : Prop :=
  ∃ texts rest, readStrings bytes = some (texts, rest) ∧ stringAt texts index = some text

def terminated (texts : List String) : Bytes := texts.flatMap fun text => Text.utf8 text ++ [0]

theorem readTexts_append {content : Bytes} (closed : 0 ∉ content) (front rest : Bytes) :
    readTexts front (content ++ rest) = readTexts (front ++ content) rest := by
  induction content generalizing front with
  | nil => rw [List.nil_append, List.append_nil]
  | cons b content ih =>
    simp only [List.mem_cons, not_or] at closed
    rw [List.cons_append, readTexts, if_pos (Ne.symm closed.1), ih closed.2, List.append_assoc]
    rfl

theorem readTexts_terminated {texts : List String} (clean : ∀ text ∈ texts, 0 ∉ Text.utf8 text)
    (rest : Bytes) :
    ∃ left, readTexts [] (terminated texts ++ 0 :: rest) = some (texts.takeWhile (· ≠ ""), left) ∧
      ("" ∉ texts → left = rest) := by
  induction texts with
  | nil => exact ⟨rest, rfl, fun _ => rfl⟩
  | cons text texts ih =>
    by_cases blank : text = ""
    · refine ⟨terminated texts ++ 0 :: rest, ?_, fun absent => absurd (by simp [blank]) absent⟩
      have none : Text.utf8 "" = [] := Text.utf8_eq_nil_iff.mpr rfl
      rw [blank, List.takeWhile_cons_of_neg (by simp), terminated, List.flatMap_cons, none]
      rfl
    · have nonempty : Text.utf8 text ≠ [] := fun none => blank (Text.utf8_eq_nil_iff.mp none)
      obtain ⟨left, found, whole⟩ := ih fun other member => clean other (List.mem_cons_of_mem _ member)
      refine ⟨left, ?_, fun absent => whole fun member => absent (List.mem_cons_of_mem _ member)⟩
      have front : terminated (text :: texts) ++ 0 :: rest =
          Text.utf8 text ++ (0 :: (terminated texts ++ 0 :: rest)) := by
        simp [terminated]
      rw [front, readTexts_append (clean text (List.mem_cons_self ..)), List.nil_append, readTexts,
        if_neg (not_not.mpr rfl), if_neg nonempty, Text.ofUtf8_utf8, found]
      simp [blank]

namespace StringSet

variable {set next : StringSet} {text : String}

theorem toBytes_of_ne_nil (some : set.strings ≠ []) (rest : Bytes) :
    set.toBytes ++ rest = terminated set.strings ++ 0 :: rest := by
  unfold toBytes
  split
  · contradiction
  · rw [List.append_assoc]
    rfl

theorem readStrings_toBytes (clean : ∀ text ∈ set.strings, 0 ∉ Text.utf8 text) (rest : Bytes) :
    ∃ left, readStrings (set.toBytes ++ rest) = some (set.strings.takeWhile (· ≠ ""), left) ∧
      ("" ∉ set.strings → left = rest) := by
  by_cases none : set.strings = []
  · have bytes : set.toBytes = [0, 0] := by
      rw [toBytes, none]
    rw [bytes, none]
    exact ⟨rest, rfl, fun _ => rfl⟩
  obtain ⟨text, texts, strings⟩ := List.exists_cons_of_ne_nil none
  rw [toBytes_of_ne_nil none]
  by_cases zeros : (terminated set.strings ++ 0 :: rest).take 2 = [0, 0]
  · -- A first string with a byte of its own does not start with NUL.
    have blank : text = "" := by
      by_contra nonempty
      obtain ⟨b, bytes, utf8⟩ := List.exists_cons_of_ne_nil (mt Text.utf8_eq_nil_iff.mp nonempty)
      have zero : b = 0 := by
        simp only [strings, terminated, List.flatMap_cons, utf8, List.cons_append,
          List.take_succ_cons, List.cons.injEq] at zeros
        exact zeros.1
      refine clean text (strings ▸ List.mem_cons_self ..) ?_
      rw [utf8, zero]
      exact List.mem_cons_self ..
    refine ⟨(terminated set.strings ++ 0 :: rest).drop 2, ?_, fun absent => absurd ?_ absent⟩
    · rw [readStrings, if_pos zeros, strings, blank, List.takeWhile_cons_of_neg (by simp)]
    · rw [strings, blank]
      exact List.mem_cons_self ..
  · rw [readStrings, if_neg zeros]
    exact readTexts_terminated clean rest

theorem room_iff : set.size + 1 < 256 ↔ set.strings.length < 255 := Nat.succ_lt_succ_iff

theorem add_eq (set : StringSet) (text : String) : set.add text =
    if 0 ∈ Text.utf8 text then .error (.embeddedNul text)
    else if set.strings.length < 255 then
      .ok (UInt8.ofNat (set.strings.length + 1), ⟨set.strings ++ [text]⟩)
    else .error .tooManyStrings := by
  have nul : text.toUTF8.toList.contains 0 = true ↔ 0 ∈ Text.utf8 text := List.contains_iff_mem
  rw [add, if_congr nul rfl (if_congr room_iff rfl rfl)]
  rfl

theorem add_eq_ok {index : UInt8} : set.add text = .ok (index, next) ↔
    0 ∉ Text.utf8 text ∧ set.strings.length < 255 ∧ index.toNat = set.strings.length + 1 ∧
      next = ⟨set.strings ++ [text]⟩ := by
  rw [add_eq]
  by_cases nul : 0 ∈ Text.utf8 text
  · rw [if_pos nul]
    exact iff_of_false nofun fun given => given.1 nul
  rw [if_neg nul]
  by_cases room : set.strings.length < 255
  · have number : (UInt8.ofNat (set.strings.length + 1)).toNat = set.strings.length + 1 :=
      UInt8.toNat_ofNat_of_lt' (Nat.succ_lt_succ room)
    rw [if_pos room]
    constructor
    · rintro ⟨⟩
      exact ⟨nul, room, number, rfl⟩
    · rintro ⟨-, -, place, rfl⟩
      rw [UInt8.toNat_inj.mp (place.trans number.symm)]
  · rw [if_neg room]
    exact iff_of_false nofun fun given => room given.2.1

theorem add_eq_error {e : StructureError} : set.add text = .error e ↔
    0 ∈ Text.utf8 text ∧ e = .embeddedNul text ∨
      0 ∉ Text.utf8 text ∧ 255 ≤ set.strings.length ∧ e = .tooManyStrings := by
  rw [add_eq]
  by_cases nul : 0 ∈ Text.utf8 text
  · rw [if_pos nul]
    simp [nul, eq_comm]
  rw [if_neg nul]
  by_cases room : set.strings.length < 255
  · rw [if_pos room]
    refine iff_of_false nofun ?_
    rintro (⟨there, -⟩ | ⟨-, full, -⟩)
    · exact nul there
    · exact Nat.not_le.mpr room full
  · rw [if_neg room]
    simp [nul, Nat.le_of_not_lt room, eq_comm]

theorem run_insert (set : StringSet) (text : String) :
    (insert text).run set = match set.add text with
      | .ok (index, next) => ⟨.ok index, next, []⟩
      | .error e => ⟨.error e, set, []⟩ := by
  rw [add, insert]
  split
  · rfl
  · rw [Action.run_bind]
    simp only [Action.run_get]
    split
    · rfl
    · rfl

theorem insert_answers {index : UInt8} :
    (insert text).Answers set index next ↔ set.add text = .ok (index, next) := by
  rw [Action.Answers, run_insert]
  rcases set.add text with e | ⟨place, grown⟩
  · simp
  · simp

theorem insert_refuses {e : StructureError} :
    (insert text).Refuses set e next ↔ set.add text = .error e ∧ next = set := by
  rw [Action.Refuses, run_insert]
  rcases set.add text with cause | ⟨place, grown⟩
  · simp [eq_comm]
  · simp

def after (set : StringSet) (text : String) : StringSet := ((insert text).run set).state

def afterAll (set : StringSet) (texts : List String) : StringSet := texts.foldl after set

def kept (texts : List String) : List String :=
  (texts.filter fun text => 0 ∉ Text.utf8 text).take 255

theorem strings_afterAll (small : set.strings.length ≤ 255) (texts : List String) :
    (set.afterAll texts).strings =
      (set.strings ++ texts.filter fun text => 0 ∉ Text.utf8 text).take 255 := by
  induction texts generalizing set with
  | nil =>
    rw [List.filter_nil, List.append_nil, List.take_of_length_le small]
    rfl
  | cons text rest ih =>
    have step : set.afterAll (text :: rest) = (set.after text).afterAll rest := rfl
    by_cases nul : 0 ∈ Text.utf8 text
    · have same : set.after text = set :=
        (insert_refuses.mpr ⟨add_eq_error.mpr (.inl ⟨nul, rfl⟩), rfl⟩).2
      rw [step, same, ih small, List.filter_cons_of_neg (by simpa using nul)]
    rw [step, List.filter_cons_of_pos (by simpa using nul)]
    by_cases room : set.strings.length < 255
    · have number := UInt8.toNat_ofNat_of_lt' (Nat.succ_lt_succ room)
      have grown : set.after text = ⟨set.strings ++ [text]⟩ :=
        (insert_answers.mpr (add_eq_ok.mpr ⟨nul, room, number, rfl⟩)).2
      have fits : (set.strings ++ [text]).length ≤ 255 := by
        rw [List.length_append]
        exact room
      rw [grown, ih fits, List.append_assoc, List.singleton_append]
    · have full : set.strings.length = 255 := Nat.le_antisymm small (Nat.le_of_not_lt room)
      have same : set.after text = set :=
        (insert_refuses.mpr ⟨add_eq_error.mpr (.inr ⟨nul, full.ge, rfl⟩), rfl⟩).2
      rw [same, ih small, List.take_left' full, List.take_left' full]

theorem strings_eq_kept (texts : List String) : (empty.afterAll texts).strings = kept texts :=
  strings_afterAll (Nat.zero_le _) texts

theorem clean_kept {texts : List String} {text : String} (member : text ∈ kept texts) :
    0 ∉ Text.utf8 text := by
  have clean := (List.mem_filter.mp (List.mem_of_mem_take member)).2
  exact of_decide_eq_true clean

-- A call after others: a string gets the place behind those that are kept, or nothing is changed.
structure Answered (front : List String) (text : String) : Prop where
  held : (empty.afterAll front).strings = kept front
  inPlace : (insert text).run (empty.afterAll front) = match (empty.afterAll front).add text with
    | .ok (index, next) => ⟨.ok index, next, []⟩
    | .error e => ⟨.error e, empty.afterAll front, []⟩
  accepts (index : UInt8) (next : StringSet) :
    (insert text).Answers (empty.afterAll front) index next ↔
      0 ∉ Text.utf8 text ∧ (kept front).length < 255 ∧ index.toNat = (kept front).length + 1 ∧
        next.strings = kept front ++ [text]
  refuses (e : StructureError) (next : StringSet) :
    (insert text).Refuses (empty.afterAll front) e next ↔
      (0 ∈ Text.utf8 text ∧ e = .embeddedNul text ∨
        0 ∉ Text.utf8 text ∧ (kept front).length = 255 ∧ e = .tooManyStrings) ∧
      next = empty.afterAll front

theorem answered (front : List String) (text : String) : Answered front text where
  held := strings_eq_kept front
  inPlace := run_insert _ text
  accepts index next := by
    rw [insert_answers, add_eq_ok, strings_eq_kept]
    have same : next = ⟨kept front ++ [text]⟩ ↔ next.strings = kept front ++ [text] :=
      ⟨fun eq => eq ▸ rfl, fun strings => congrArg StringSet.mk strings⟩
    rw [same]
  refuses e next := by
    have most : (kept front).length ≤ 255 := List.length_take_le _ _
    have full : 255 ≤ (kept front).length ↔ (kept front).length = 255 :=
      ⟨fun least => Nat.le_antisymm most least, fun all => all.ge⟩
    rw [insert_refuses, add_eq_error, strings_eq_kept, full]

theorem getElem?_takeWhile_iff {α : Type} {p : α → Bool} {l : List α} {i : Nat} {a : α}
    (here : l[i]? = some a) : (l.takeWhile p)[i]? = some a ↔ ∀ b ∈ l.take (i + 1), p b := by
  induction l generalizing i with
  | nil => cases here
  | cons b rest ih =>
    by_cases good : p b
    · rw [List.takeWhile_cons_of_pos good, List.take_succ_cons, List.forall_mem_cons]
      cases i with
      | zero => simpa [good] using here
      | succ i =>
        rw [List.getElem?_cons_succ, ih here]
        simp [good]
    · rw [List.takeWhile_cons_of_neg good, List.take_succ_cons, List.forall_mem_cons]
      exact iff_of_false nofun fun all => good all.1

theorem getElem?_kept {front back : List String} {text : String} (clean : 0 ∉ Text.utf8 text)
    (room : (kept front).length < 255) :
    (kept (front ++ text :: back))[(kept front).length]? = some text := by
  rw [kept, List.length_take] at room
  have all : kept front = front.filter fun text => 0 ∉ Text.utf8 text :=
    List.take_of_length_le (by omega)
  rw [all, kept, List.filter_append, List.filter_cons_of_pos (by simpa using clean),
    List.getElem?_take_of_lt (by omega), List.getElem?_append_right (Nat.le_refl _), Nat.sub_self]
  rfl

theorem readStrings_toBytes_iff (clean : ∀ text ∈ set.strings, 0 ∉ Text.utf8 text) (rest : Bytes) :
    readStrings (set.toBytes ++ rest) = some (set.strings, rest) ↔ "" ∉ set.strings := by
  obtain ⟨left, found, whole⟩ := readStrings_toBytes clean rest
  rw [found, Option.some.injEq, Prod.mk.injEq]
  constructor
  · rintro ⟨all, -⟩ blank
    have nonempty := List.takeWhile_eq_self_iff.mp all "" blank
    simp at nonempty
  · intro absent
    refine ⟨List.takeWhile_eq_self_iff.mpr fun text member => ?_, whole absent⟩
    exact decide_eq_true fun blank => absent (blank ▸ member)

theorem resolves_iff {calls front back : List String} {index : UInt8}
    (split : calls = front ++ text :: back)
    (answers : (insert text).Answers (empty.afterAll front) index next) :
    Resolves (empty.afterAll calls).toBytes index text ↔ "" ∉ (kept calls).take index.toNat := by
  obtain ⟨clean, room, number, -⟩ := ((answered front text).accepts index next).mp answers
  obtain ⟨left, found, -⟩ := @readStrings_toBytes (empty.afterAll calls)
    (fun text member => clean_kept (strings_eq_kept calls ▸ member)) []
  rw [List.append_nil, strings_eq_kept] at found
  have positive : index ≠ 0 := by
    rintro rfl
    exact absurd number (Nat.succ_ne_zero _).symm
  -- Strings are numbered from 1.
  have place : index.toNat - 1 = (kept front).length := by omega
  have here : (kept calls)[index.toNat - 1]? = some text := by
    rw [place, split]
    exact getElem?_kept clean room
  have behind : index.toNat - 1 + 1 = index.toNat := by omega
  have resolves : Resolves (empty.afterAll calls).toBytes index text ↔
      ((kept calls).takeWhile (· ≠ ""))[index.toNat - 1]? = some text := by
    constructor
    · rintro ⟨texts, rest, read, there⟩
      rw [found, Option.some.injEq, Prod.mk.injEq] at read
      rwa [stringAt, if_neg positive, ← read.1] at there
    · intro there
      exact ⟨_, left, found, (if_neg positive).trans there⟩
  rw [resolves, getElem?_takeWhile_iff here, behind]
  constructor
  · intro all blank
    simpa using all "" blank
  · intro absent other member
    exact decide_eq_true fun blank => absent (blank ▸ member)

/-- Strings are added one after another: one without a NUL byte gets the number of its place as long as
there are numbers, and any other leaves the set as it was. A reader of the written set gets all strings
that are kept, and stops where the set does, just when none of them is empty; and it finds a string
under its number just when neither that string nor one before it is empty. -/
theorem references_resolve_iff (calls : List String) :
    (∀ front text back, calls = front ++ text :: back → Answered front text) ∧
      (∀ rest, readStrings ((empty.afterAll calls).toBytes ++ rest) = some (kept calls, rest) ↔
        "" ∉ kept calls) ∧
      ∀ front text back index next, calls = front ++ text :: back →
        (insert text).Answers (empty.afterAll front) index next →
        (Resolves (empty.afterAll calls).toBytes index text ↔
          "" ∉ (kept calls).take index.toNat) := by
  refine ⟨fun front text back _ => answered front text, ?_, ?_⟩
  · intro rest
    have strings := strings_eq_kept calls
    have read := @readStrings_toBytes_iff (empty.afterAll calls)
      (fun text member => clean_kept (strings ▸ member)) rest
    rwa [strings] at read
  · intro front text back index next split answers
    exact resolves_iff split answers

def nulBetween : List String := ["PCIE-1", "a\x00b", "x"]

theorem references_resolve_iff_nulBetween :
    nulBetween = ["PCIE-1", "a\x00b"] ++ "x" :: [] ∧ Answered ["PCIE-1", "a\x00b"] "x" ∧
      (insert "x").Answers (empty.afterAll ["PCIE-1", "a\x00b"]) 2 (empty.afterAll nulBetween) ∧
      Resolves (empty.afterAll nulBetween).toBytes 2 "x" := by
  obtain ⟨answers, -, found⟩ := references_resolve_iff nulBetween
  have split : nulBetween = ["PCIE-1", "a\x00b"] ++ "x" :: [] := rfl
  have added : (insert "x").Answers (empty.afterAll ["PCIE-1", "a\x00b"]) 2
      (empty.afterAll nulBetween) := by
    rw [insert_answers]
    cbv
  have strings : kept nulBetween = ["PCIE-1", "x"] := by cbv
  refine ⟨split, answers _ _ _ split, added, (found _ _ _ _ _ split added).mpr ?_⟩
  rw [strings]
  decide

def blankBetween : List String := ["a", "", "b"]

theorem not_resolves_blankBetween :
    (insert "b").Answers (empty.afterAll ["a", ""]) 3 (empty.afterAll blankBetween) ∧
      (empty.afterAll blankBetween).strings = blankBetween ∧
      readStrings (empty.afterAll blankBetween).toBytes = some (["a"], [0x62, 0, 0]) ∧
      ¬Resolves (empty.afterAll blankBetween).toBytes 3 "b" := by
  have added : (insert "b").Answers (empty.afterAll ["a", ""]) 3 (empty.afterAll blankBetween) := by
    rw [insert_answers]
    cbv
  have read : readStrings (empty.afterAll blankBetween).toBytes = some (["a"], [0x62, 0, 0]) := by
    cbv
  refine ⟨added, by cbv, read, ?_⟩
  rintro ⟨texts, rest, found, there⟩
  rw [read] at found
  cases found
  cases there

end StringSet

end FirmwareTables.Smbios
