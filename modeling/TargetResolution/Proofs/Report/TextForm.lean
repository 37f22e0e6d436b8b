import Mathlib.Data.List.Forall2
import TargetResolution.Report
import TargetResolution.Text.Lists

/-!
Reading the text form of a report. The line of a key starts with no space and the line of an item
does, so that the lines of an entry can be told from those of the next one, and a list is told from
a text by the line of its key. Main statement: two reports with the same keys have one text form
exactly if their values agree, all that is shown as an absence taken for one.
-/

namespace TargetResolution

open Text

/-! ### Lines -/

namespace Text

theorem unfields_eq_intercalate (sep : Char) (fs : List (List Char)) :
    unfields sep fs = [sep].intercalate fs := by
  induction fs with
  | nil => rfl
  | cons f fs ih =>
    cases fs with
    | nil => simp [unfields]
    | cons g fs => rw [unfields_cons_of_ne_nil sep f (by simp), ih]; simp

/-- Texts without line feeds are found again from their lines. -/
theorem lines_inj {ls ms : List String} (hls : ∀ s ∈ ls, '\n' ∉ s.toList)
    (hms : ∀ s ∈ ms, '\n' ∉ s.toList) (hl : ls ≠ []) (hm : ms ≠ [])
    (h : "\n".intercalate ls = "\n".intercalate ms) : ls = ms := by
  have hjoin : ∀ ks : List String, "\n".intercalate ks = joinWith '\n' ks := by
    intro ks
    rw [← String.toList_inj, String.toList_intercalate, toList_joinWith, unfields_eq_intercalate]
    rfl
  rw [hjoin, hjoin] at h
  rw [← splitOn_joinWith hl hls, h, splitOn_joinWith hm hms]

end Text

namespace Report

/-- Blocks are found again from their lines if a property tells the other lines from the first. -/
theorem blocks_inj {α : Type} {p : α → Bool} {xs ys : List (α × List α)}
    (hxs : ∀ x ∈ xs, p x.1 = false ∧ ∀ line ∈ x.2, p line = true)
    (hys : ∀ y ∈ ys, p y.1 = false ∧ ∀ line ∈ y.2, p line = true)
    (h : (xs.flatMap fun x => x.1 :: x.2) = ys.flatMap fun y => y.1 :: y.2) : xs = ys := by
  have hstart : ∀ zs : List (α × List α), (∀ z ∈ zs, p z.1 = false ∧ ∀ line ∈ z.2, p line = true) →
      (zs.flatMap fun z => z.1 :: z.2).takeWhile p = [] := by
    intro zs hzs
    cases zs with
    | nil => rfl
    | cons z zs => simp [(hzs z List.mem_cons_self).1]
  induction xs generalizing ys with
  | nil =>
    cases ys with
    | nil => rfl
    | cons y ys => simp at h
  | cons x xs ih =>
    cases ys with
    | nil => simp at h
    | cons y ys =>
      obtain ⟨x, items⟩ := x
      obtain ⟨y, items'⟩ := y
      obtain ⟨⟨-, hitems⟩, hxs'⟩ := List.forall_mem_cons.1 hxs
      obtain ⟨⟨-, hitems'⟩, hys'⟩ := List.forall_mem_cons.1 hys
      simp only [List.flatMap_cons, List.cons_append, List.cons.injEq] at h
      obtain ⟨rfl, h⟩ := h
      -- The items of the first block reach up to the first line of the next one.
      have htake := congrArg (List.takeWhile p) h
      rw [List.takeWhile_append_of_pos hitems, List.takeWhile_append_of_pos hitems', hstart xs hxs',
        hstart ys hys', List.append_nil, List.append_nil] at htake
      subst htake
      rw [ih hxs' hys' (List.append_cancel_left h)]

/-! ### Entries -/

/-- Whether a text can be a key of a report: it is not empty, and it is a line that starts with no
space. -/
structure IsKey (key : String) : Prop where
  ne_empty : key ≠ ""
  head : key.toList.head? ≠ some ' '
  line : '\n' ∉ key.toList

/-- The values of reports: none, a line, or some lines. -/
inductive IsPlain : Value → Prop where
  | null : IsPlain .null
  | str {s : String} (h : '\n' ∉ s.toList) : IsPlain (.str s)
  | list {items : List String} (h : ∀ s ∈ items, '\n' ∉ s.toList) : IsPlain (.list (items.map .str))

/-- The values that are shown as an absence. -/
inductive IsAbsent : Value → Prop where
  | null : IsAbsent .null
  | empty : IsAbsent (.str "")
  | noItems : IsAbsent (.list [])
  | noneText : IsAbsent (.str noneText)

/-- Whether two values are the same or are both shown as an absence. -/
def Agree (v w : Value) : Prop := v = w ∨ (IsAbsent v ∧ IsAbsent w)

/-- Whether two entries have one key and values that agree. -/
def Match (x y : String × Value) : Prop := x.1 = y.1 ∧ Agree x.2 y.2

/-- The text on the line of a key, unless its value is a list with items below it. -/
def lineText? : Value → Option String
  | .list [] => some noneText
  | .list (_ :: _) => none
  | v => some (shown v)

/-- The texts below the line of a key. -/
def itemsOf : Value → List String
  | .list items => items.map Value.text
  | _ => []

/-- What stands behind a key. -/
def behindKey : Option String → String
  | none => " :"
  | some s => " : " ++ s

/-- The line of a key and the lines of the items. -/
def block (width : Nat) (key : String) (v : Value) : String × List String :=
  (padTo width key ++ behindKey (lineText? v),
    (itemsOf v).map fun item => blanksOf (width + 3) ++ item)

theorem entryLines_eq (width : Nat) (key : String) (v : Value) :
    entryLines width key v = (block width key v).1 :: (block width key v).2 := by
  cases v with
  | list items =>
    cases items with
    | nil => simp [entryLines, listLines, block, lineText?, behindKey, itemsOf, String.append_assoc]
    | cons item items => simp [entryLines, listLines, block, lineText?, behindKey, itemsOf]
  | _ => simp [entryLines, block, lineText?, behindKey, itemsOf, String.append_assoc]

/-! ### Values -/

theorem Agree.symm {v w : Value} (h : Agree v w) : Agree w v := by
  rcases h with rfl | ⟨hv, hw⟩
  · exact .inl rfl
  · exact .inr ⟨hw, hv⟩

theorem Agree.trans {u v w : Value} (h : Agree u v) (h' : Agree v w) : Agree u w := by
  rcases h with rfl | ⟨hu, hv⟩
  · exact h'
  · rcases h' with rfl | ⟨-, hw⟩
    · exact .inr ⟨hu, hv⟩
    · exact .inr ⟨hu, hw⟩

theorem behindKey_injective : Function.Injective behindKey := by
  intro s t h
  have hlength : ∀ s : String, " :" ≠ " : " ++ s := by
    intro s heq
    have hchars := congrArg String.toList heq
    simp at hchars
  cases s <;> cases t
  · rfl
  · exact absurd h (hlength _)
  · exact absurd h.symm (hlength _)
  · exact congrArg some ((String.append_right_inj " : ").1 h)

/-- The value that is read from the line of a key and the lines below it. -/
def readBack (line? : Option String) (items : List String) : Value :=
  match line? with
  | none => .list (items.map .str)
  | some s => if s = noneText then .null else .str s

theorem agree_readBack {v : Value} (h : IsPlain v) :
    Agree v (readBack (lineText? v) (itemsOf v)) := by
  cases h with
  | null => exact .inl rfl
  | @str s =>
    by_cases hempty : s = ""
    · subst hempty
      exact .inr ⟨.empty, .null⟩
    · by_cases hnone : s = noneText
      · subst hnone
        exact .inr ⟨.noneText, .null⟩
      · exact .inl (by simp [readBack, lineText?, shown, hempty, hnone])
  | @list items =>
    cases items with
    | nil => exact .inr ⟨.noItems, .null⟩
    | cons item items =>
      have htexts : (items.map Value.str).map Value.text = items := by
        rw [List.map_map]
        exact List.map_id'' (fun _ => rfl) items
      exact .inl (by simp [readBack, lineText?, itemsOf, htexts, Value.text])

/-- Values agree if they look alike behind and below the key. -/
theorem agree_iff {v w : Value} (hv : IsPlain v) (hw : IsPlain w) :
    Agree v w ↔ lineText? v = lineText? w ∧ itemsOf v = itemsOf w := by
  have habsent : ∀ u, IsAbsent u → lineText? u = some noneText ∧ itemsOf u = [] := by
    intro u hu
    cases hu <;> exact ⟨rfl, rfl⟩
  constructor
  · rintro (rfl | ⟨hv, hw⟩)
    · exact ⟨rfl, rfl⟩
    · obtain ⟨hline, hitems⟩ := habsent v hv
      obtain ⟨hline', hitems'⟩ := habsent w hw
      exact ⟨hline.trans hline'.symm, hitems.trans hitems'.symm⟩
  · rintro ⟨hline, hitems⟩
    have hread := agree_readBack hv
    rw [hline, hitems] at hread
    exact hread.trans (agree_readBack hw).symm

/-! ### Line feeds and spaces -/

/-- Whether a line starts with a space. -/
def startsBlank (line : String) : Bool := line.toList.head? == some ' '

theorem startsBlank_key {key : String} (h : IsKey key) (width : Nat) (rest : String) :
    startsBlank (padTo width key ++ rest) = false := by
  obtain ⟨c, cs, hc⟩ := List.exists_cons_of_ne_nil (mt String.toList_eq_nil_iff.1 h.ne_empty)
  have hne : c ≠ ' ' := fun heq => h.head (by rw [hc, heq]; rfl)
  simpa [startsBlank, padTo, hc] using hne

theorem startsBlank_item (width : Nat) (item : String) :
    startsBlank (blanksOf (width + 3) ++ item) = true := by
  simp [startsBlank, blanksOf, List.replicate_succ]

theorem not_mem_blanksOf (n : Nat) : '\n' ∉ (blanksOf n).toList := by
  simp [blanksOf]

theorem not_mem_entryLines {key : String} (hkey : IsKey key) {v : Value} (hv : IsPlain v)
    (width : Nat) : ∀ line ∈ entryLines width key v, '\n' ∉ line.toList := by
  have hnone : '\n' ∉ (behindKey (some noneText)).toList := by decide
  have hvalue : '\n' ∉ (behindKey (lineText? v)).toList ∧
      ∀ item ∈ itemsOf v, '\n' ∉ item.toList := by
    cases hv with
    | null => exact ⟨hnone, by simp [itemsOf]⟩
    | @str s hs =>
      refine ⟨?_, by simp [itemsOf]⟩
      by_cases hempty : s = ""
      · subst hempty
        exact hnone
      · simp [behindKey, lineText?, shown, hempty, hs]
    | @list items hitems =>
      cases items with
      | nil => exact ⟨hnone, by simp [itemsOf]⟩
      | cons item items =>
        refine ⟨by simp [behindKey, lineText?], ?_⟩
        simpa [itemsOf, Value.text] using hitems
  rw [entryLines_eq, List.forall_mem_cons]
  constructor
  · simp [block, padTo, hkey.line, not_mem_blanksOf, hvalue.1]
  · intro line hline
    obtain ⟨item, hitem, rfl⟩ := List.mem_map.1 hline
    simp [not_mem_blanksOf, hvalue.2 item hitem]

/-! ### Reports -/

variable {a b : List (String × Value)}

/-- The blocks of a report, each at the width of all keys. -/
def blocks (width : Nat) (entries : List (String × Value)) : List (String × List String) :=
  entries.map fun x => block width x.1 x.2

theorem blocks_cons (width : Nat) (x : String × Value) (entries : List (String × Value)) :
    blocks width (x :: entries) = block width x.1 x.2 :: blocks width entries := rfl

theorem textForm_eq (entries : List (String × Value)) :
    textForm entries = "\n".intercalate
      ((blocks (keyWidth (entries.map (·.1))) entries).flatMap fun x => x.1 :: x.2) := by
  simp [textForm, blocks, List.flatMap_map, entryLines_eq]

theorem block_eq_iff (width : Nat) (key : String) {v w : Value} (hv : IsPlain v) (hw : IsPlain w) :
    block width key v = block width key w ↔ Agree v w := by
  have hitem : Function.Injective fun item => blanksOf (width + 3) ++ item :=
    fun _ _ h => (String.append_right_inj _).1 h
  rw [agree_iff hv hw, block, block, Prod.mk.injEq, String.append_right_inj,
    behindKey_injective.eq_iff, (List.map_injective_iff.2 hitem).eq_iff]

theorem blocks_eq_iff (width : Nat) (hkeys : a.map (·.1) = b.map (·.1))
    (ha : ∀ x ∈ a, IsPlain x.2) (hb : ∀ x ∈ b, IsPlain x.2) :
    blocks width a = blocks width b ↔ List.Forall₂ Match a b := by
  induction a generalizing b with
  | nil =>
    cases b with
    | nil => simp
    | cons y b => simp at hkeys
  | cons x a ih =>
    cases b with
    | nil => simp at hkeys
    | cons y b =>
      have hkey : x.1 = y.1 := (List.cons.inj hkeys).1
      have hrest : a.map (·.1) = b.map (·.1) := (List.cons.inj hkeys).2
      obtain ⟨hv, ha'⟩ := List.forall_mem_cons.1 ha
      obtain ⟨hw, hb'⟩ := List.forall_mem_cons.1 hb
      have hblock := block_eq_iff width y.1 hv hw
      rw [List.forall₂_cons, ← ih hrest ha' hb', blocks_cons, blocks_cons, List.cons.injEq, Match,
        hkey, hblock]
      simp

theorem separated_blocks (width : Nat) (h : ∀ x ∈ a, IsKey x.1) :
    ∀ x ∈ blocks width a, startsBlank x.1 = false ∧ ∀ line ∈ x.2, startsBlank line = true := by
  intro x hx
  obtain ⟨⟨key, v⟩, hmem, rfl⟩ := List.mem_map.1 hx
  refine ⟨startsBlank_key (h _ hmem) width _, fun line hline => ?_⟩
  obtain ⟨item, -, rfl⟩ := List.mem_map.1 hline
  exact startsBlank_item width item

theorem not_mem_lines (width : Nat) (hnames : ∀ x ∈ a, IsKey x.1) (ha : ∀ x ∈ a, IsPlain x.2) :
    ∀ line ∈ (blocks width a).flatMap fun x => x.1 :: x.2, '\n' ∉ line.toList := by
  intro line hline
  obtain ⟨x, hx, hline⟩ := List.mem_flatMap.1 hline
  obtain ⟨⟨key, v⟩, hmem, rfl⟩ := List.mem_map.1 hx
  rw [← entryLines_eq] at hline
  exact not_mem_entryLines (hnames _ hmem) (ha _ hmem) width line hline

theorem textForm_inj (hkeys : a.map (·.1) = b.map (·.1)) (hnames : ∀ x ∈ a, IsKey x.1)
    (ha : ∀ x ∈ a, IsPlain x.2) (hb : ∀ x ∈ b, IsPlain x.2) (h : textForm a = textForm b) :
    List.Forall₂ Match a b := by
  have hnames' : ∀ y ∈ b, IsKey y.1 := by
    intro y hy
    have hkey : y.1 ∈ a.map (·.1) := by
      rw [hkeys]
      exact List.mem_map_of_mem hy
    obtain ⟨x, hx, hxy⟩ := List.mem_map.1 hkey
    rw [← hxy]
    exact hnames x hx
  by_cases hempty : b = []
  · subst hempty
    obtain rfl : a = [] := List.map_eq_nil_iff.1 hkeys
    exact .nil
  · have hempty' : a ≠ [] := by
      rintro rfl
      exact hempty (List.map_eq_nil_iff.1 hkeys.symm)
    have hlines : ∀ {c : List (String × Value)} {width}, c ≠ [] →
        ((blocks width c).flatMap fun x => x.1 :: x.2) ≠ [] := by
      intro c width hc
      obtain ⟨x, c, rfl⟩ := List.exists_cons_of_ne_nil hc
      simp [blocks]
    -- The keys are the same, and so is the width at which both reports are laid out.
    rw [textForm_eq, textForm_eq, hkeys] at h
    rw [← blocks_eq_iff (keyWidth (b.map (·.1))) hkeys ha hb]
    refine blocks_inj (separated_blocks _ hnames) (separated_blocks _ hnames') ?_
    exact lines_inj (not_mem_lines _ hnames ha) (not_mem_lines _ hnames' hb) (hlines hempty')
      (hlines hempty) h

theorem textForm_congr (hkeys : a.map (·.1) = b.map (·.1)) (ha : ∀ x ∈ a, IsPlain x.2)
    (hb : ∀ x ∈ b, IsPlain x.2) (h : List.Forall₂ Match a b) :
    textForm a = textForm b := by
  rw [textForm_eq, textForm_eq, hkeys, (blocks_eq_iff _ hkeys ha hb).2 h]

/-- What is not shown as an absence is the same at the same place. -/
theorem getElem?_eq_some_iff_of_agree {key : String} {v : Value} (hv : ¬IsAbsent v)
    (h : List.Forall₂ Match a b) (i : Nat) :
    a[i]? = some (key, v) ↔ b[i]? = some (key, v) := by
  induction h generalizing i with
  | nil => simp
  | @cons x y a b hxy _ ih =>
    cases i with
    | succ i => simpa using ih i
    | zero =>
      obtain ⟨key', w⟩ := x
      obtain ⟨key'', w'⟩ := y
      obtain ⟨hkey, hagree⟩ := hxy
      obtain rfl : key' = key'' := hkey
      rcases hagree with hw | ⟨hw, hw'⟩
      · obtain rfl : w = w' := hw
        rfl
      · simp only [List.getElem?_cons_zero, Option.some_inj, Prod.mk.injEq]
        constructor
        · rintro ⟨-, rfl⟩
          exact absurd hw hv
        · rintro ⟨-, rfl⟩
          exact absurd hw' hv

/-- Two reports with the same keys, on plain values, have one text form exactly if their values
agree key by key. So whatever is not shown as an absence, a list with items among it, is found
unchanged at the same key in any report of this form. -/
theorem textForm_eq_iff_agree (hkeys : a.map (·.1) = b.map (·.1)) (hnames : ∀ x ∈ a, IsKey x.1)
    (ha : ∀ x ∈ a, IsPlain x.2) (hb : ∀ x ∈ b, IsPlain x.2) :
    (textForm a = textForm b ↔ List.Forall₂ Match a b) ∧
    (textForm a = textForm b → ∀ (i : Nat) (key : String) (v : Value), ¬IsAbsent v →
      (a[i]? = some (key, v) ↔ b[i]? = some (key, v))) := by
  refine ⟨⟨textForm_inj hkeys hnames ha hb, textForm_congr hkeys ha hb⟩, fun h i key v hv => ?_⟩
  exact getElem?_eq_some_iff_of_agree hv (textForm_inj hkeys hnames ha hb h) i

theorem textForm_eq_iff_agree_items :
    let a : List (String × Value) := [("dirs", .list [.str "", .str "x : y"]), ("id", .null)]
    let b : List (String × Value) := [("dirs", .list [.str "", .str "x : y"]), ("id", .list [])]
    let c : List (String × Value) := [("dirs", .list [.str "x : y"]), ("id", .str "(none)")]
    textForm a = textForm b ∧ textForm a ≠ textForm c := by
  intro a b c
  have hdirs : IsKey "dirs" := ⟨by decide, by decide, by decide⟩
  have hid : IsKey "id" := ⟨by decide, by decide, by decide⟩
  have hitems : IsPlain (.list [.str "", .str "x : y"]) := @IsPlain.list ["", "x : y"] (by decide)
  have hitem : IsPlain (.list [.str "x : y"]) := @IsPlain.list ["x : y"] (by decide)
  have hnone : IsPlain (.list []) := @IsPlain.list [] (by decide)
  have hnames : ∀ x ∈ a, IsKey x.1 := by simp [a, hdirs, hid]
  have ha : ∀ x ∈ a, IsPlain x.2 := by simp [a, hitems, IsPlain.null]
  have hb : ∀ x ∈ b, IsPlain x.2 := by simp [b, hitems, hnone]
  have hc : ∀ x ∈ c, IsPlain x.2 := by
    simp [c, hitem, IsPlain.str (s := "(none)") (by decide)]
  obtain ⟨hsame, -⟩ := textForm_eq_iff_agree (a := a) (b := b) rfl hnames ha hb
  obtain ⟨-, hplace⟩ := textForm_eq_iff_agree (a := a) (b := c) rfl hnames ha hc
  refine ⟨hsame.2 ?_, fun h => ?_⟩
  · exact .cons ⟨rfl, .inl rfl⟩ (.cons ⟨rfl, .inr ⟨.null, .noItems⟩⟩ .nil)
  · have hfirst := (hplace h 0 "dirs" (.list [.str "", .str "x : y"]) (by rintro ⟨⟩)).1 rfl
    simp [c] at hfirst

/-- A list of one item that reads like an absence is none. -/
example : textForm [("id", .list [.str "(none)"])] = "id :\n     (none)" := by decide

end Report

end TargetResolution
