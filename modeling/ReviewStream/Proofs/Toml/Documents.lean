import Mathlib.Tactic.Lemma
import Mathlib.Tactic.SplitIfs
import ReviewStream.Proofs.Toml.Values

/-!
# TOML documents that are read line by line

A reader has a current table, to which a line with a member adds that member, and which a header
changes.  Everything happens at the end of what has been read so far.

* `IsPlace`: the table at the end of a path, seen from the root.
* `descend?_of_isPlace`: what is done to a table is done at its place.
* `Takes`: a text takes a reader from one state to another, whatever follows.
* **`takes_valueLines`**: the lines of a table's values put these into the current table.
* **`takes_headerText`**: a header makes the table that it opens the current one.
* `takesAll_withItems`, `takesAll_withTable`: tables in which there are others.
* **`read?_write`**: a root with such tables is read from its document.
-/

namespace ReviewStream.Toml

variable {key : String} {path : List String} {v : Toml} {root inner front : Members}
  {place : Members → Members}

/-! ## Changes at the end -/

lemma key_notMem {m : String × Toml} {ms : Members}
    (h : ((front ++ m :: ms).map Prod.fst).Nodup) : m.1 ∉ front.map Prod.fst := by
  intro hmem
  rw [List.map_append, List.nodup_append] at h
  exact h.2.2 _ hmem _ List.mem_cons_self rfl

lemma alter?_append {f : Option Toml → Option Toml} (h : key ∉ front.map Prod.fst) (v : Toml) :
    alter? key f (front ++ [(key, v)]) = (f (some v)).map fun w => front ++ [(key, w)] := by
  induction front with
  | nil =>
      rw [List.nil_append, alter?, if_pos rfl]
      rfl
  | cons m front ih =>
      obtain ⟨k, w⟩ := m
      rw [List.map_cons, List.mem_cons, not_or] at h
      rw [List.cons_append, alter?, if_neg (Ne.symm h.1), ih h.2, Option.map_map]
      rfl

lemma alter?_of_notMem {f : Option Toml → Option Toml} (h : key ∉ front.map Prod.fst) :
    alter? key f front = (f none).map fun w => front ++ [(key, w)] := by
  induction front with
  | nil => rfl
  | cons m front ih =>
      obtain ⟨k, w⟩ := m
      rw [List.map_cons, List.mem_cons, not_or] at h
      rw [alter?, if_neg (Ne.symm h.1), ih h.2, Option.map_map]
      rfl

lemma alterLast?_append {α : Type} {f : α → Option α} (items : List α) (a : α) :
    alterLast? f (items ++ [a]) = (f a).map fun b => items ++ [b] := by
  induction items with
  | nil => rfl
  | cons b items ih =>
      cases items with
      | nil =>
          change ((f a).map fun a => [a]).map (b :: ·) = _
          rw [Option.map_map]
          rfl
      | cons d items =>
          change (alterLast? f (d :: items ++ [a])).map (b :: ·) = _
          rw [ih, Option.map_map]
          rfl

/-! ## Places -/

/-- The root with given members in the table at the end of a path, which is the last table on every
level. -/
inductive IsPlace : List String → (Members → Members) → Prop where
  | root : IsPlace [] id
  | table {path : List String} {place : Members → Members} (key : String) (front : Members)
      (hkey : key ∉ front.map Prod.fst) (h : IsPlace path place) :
      IsPlace (key :: path) fun inner => front ++ [(key, .table .header (place inner))]
  | tables {path : List String} {place : Members → Members} (key : String) (front : Members)
      (hkey : key ∉ front.map Prod.fst) (done : List Toml) (h : IsPlace path place) :
      IsPlace (key :: path) fun inner =>
        front ++ [(key, .tables (done ++ [.table .header (place inner)]))]

/-- What is done to a table is done at its place. -/
lemma descend?_of_isPlace (h : IsPlace path place) (f : Origin → Members → Option Members)
    (inner : Members) :
    descend? false path f .header (place inner) = (f .header inner).map place := by
  induction h with
  | root =>
      rw [descend?, Option.map_id]
      rfl
  | @table path place key front hkey h ih =>
      rw [descend?, alter?_append hkey]
      change ((descend? false path f .header (place inner)).map (Toml.table .header)).map _ = _
      rw [ih, Option.map_map, Option.map_map]
      rfl
  | @tables path place key front hkey done h ih =>
      rw [descend?, alter?_append hkey]
      change ((alterLast? _ (done ++ [.table .header (place inner)])).map Toml.tables).map _ = _
      rw [alterLast?_append]
      change ((((descend? false path f .header (place inner)).map (Toml.table .header)).map _).map
        Toml.tables).map _ = _
      rw [ih, Option.map_map, Option.map_map, Option.map_map, Option.map_map]
      rfl

lemma IsPlace.append {later : List String} {below : Members → Members} (h : IsPlace path place)
    (hlater : IsPlace later below) : IsPlace (path ++ later) (place ∘ below) := by
  induction h with
  | root => exact hlater
  | table key front hkey _ ih => exact .table key front hkey ih
  | tables key front hkey done _ ih => exact .tables key front hkey done ih

/-- A member is put at the end of the table at a place. -/
lemma assign?_of_isPlace (h : IsPlace path place) (hkey : key ∉ inner.map Prod.fst) (v : Toml) :
    descend? false path (assign? [key] v) .header (place inner)
      = some (place (inner ++ [(key, v)])) := by
  rw [descend?_of_isPlace h]
  change (alter? key _ inner).map place = _
  rw [alter?_of_notMem hkey]
  rfl

/-- A header opens a table at the end of the one that its path names. -/
lemma openTable?_of_isPlace (h : IsPlace path place) (hkey : key ∉ inner.map Prod.fst) :
    openTable? (path ++ [key]) (place inner)
      = some (place (inner ++ [(key, .table .header [])])) := by
  rw [openTable?, List.getLast?_concat, List.dropLast_concat]
  simp only [descend?_of_isPlace h, alter?_of_notMem hkey, Option.map_some]

/-- A repeated header opens the first table of its kind at the end of the table before. -/
lemma openItem?_of_isPlace (h : IsPlace path place) (hkey : key ∉ inner.map Prod.fst) :
    openItem? (path ++ [key]) (place inner)
      = some (place (inner ++ [(key, .tables [.table .header []])])) := by
  rw [openItem?, List.getLast?_concat, List.dropLast_concat]
  simp only [descend?_of_isPlace h, alter?_of_notMem hkey, Option.map_some]

/-- A repeated header opens a further table after those of its kind. -/
lemma openItem?_of_isPlace_tables (h : IsPlace path place) (hkey : key ∉ inner.map Prod.fst)
    (items : List Toml) :
    openItem? (path ++ [key]) (place (inner ++ [(key, .tables items)]))
      = some (place (inner ++ [(key, .tables (items ++ [.table .header []]))])) := by
  rw [openItem?, List.getLast?_concat, List.dropLast_concat]
  simp only [descend?_of_isPlace h, alter?_append hkey, Option.map_some]

/-! ## Reading on -/

/-- Where a reader is: the path of the current table, and the root. -/
abbrev Cursor := List String × Members

/-- From a state, a text is read to its end as given members of the root. -/
def ReadsTo (s : Cursor) (text : List Char) (result : Members) : Prop :=
  ∀ fuel, text.length < fuel → readLines fuel s.1 s.2 text = some result

/-- A text takes a reader from one state to another, whatever follows. -/
def Takes (text : List Char) (s t : Cursor) : Prop :=
  ∀ later result, ReadsTo t later result → ReadsTo s (text ++ later) result

variable {s t u : Cursor} {text later : List Char}

lemma Takes.nil (s : Cursor) : Takes [] s s := fun _ _ h => h

lemma Takes.append (h : Takes text s t) (hlater : Takes later t u) : Takes (text ++ later) s u := by
  intro more result hmore
  rw [List.append_assoc]
  exact h _ _ (hlater _ _ hmore)

/-- An empty line changes nothing. -/
lemma Takes.newline (s : Cursor) : Takes ['\n'] s s := by
  intro later result h fuel hfuel
  have hread := h fuel (Nat.lt_of_succ_lt hfuel)
  obtain ⟨fuel, rfl⟩ := Nat.exists_eq_add_one_of_ne_zero (Nat.ne_zero_of_lt hfuel)
  rw [readLines] at hread ⊢
  exact hread

lemma readsTo_nil (path : List String) (root : Members) : ReadsTo (path, root) [] root := by
  intro fuel hfuel
  obtain ⟨fuel, rfl⟩ := Nat.exists_eq_add_one_of_ne_zero (Nat.ne_zero_of_lt hfuel)
  rfl

/-- A document that begins with no byte order mark is read from an empty root. -/
lemma read?_of_takes {s : String} (h : Takes s.toList ([], []) (path, root))
    (hmark : s.toList.head? ≠ some '\uFEFF') : read? s = some (.table .header root) := by
  have hread := h [] root (readsTo_nil path root) (s.toList.length + 1) (by simp)
  rw [List.append_nil] at hread
  unfold read?
  simp only
  split
  · next heq =>
    rw [heq] at hmark
    exact absurd rfl hmark
  · rw [hread]
    rfl

/-! ## Lines -/

/-- The line of a member puts it into the current table. -/
lemma takes_lineText (hplace : IsPlace path place) (hkey : key ∉ inner.map Prod.fst)
    (hv : IsSimple v) :
    Takes (lineText key v) (path, place inner) (path, place (inner ++ [(key, v)])) := by
  intro later result h fuel hfuel
  obtain ⟨c, tail, htext, hsolid, hbracket⟩ := exists_keyText key
  have hmember := readMember_lineText key hv later
  obtain ⟨more, hline⟩ : ∃ more, lineText key v ++ later = c :: more := by
    rw [lineText, htext]
    exact ⟨_, rfl⟩
  obtain ⟨fuel, rfl⟩ := Nat.exists_eq_add_one_of_ne_zero (Nat.ne_zero_of_lt hfuel)
  have hshorter : later.length < fuel := by
    have : 0 < (lineText key v).length := by
      rw [lineText, List.length_append]
      exact Nat.succ_pos _
    rw [List.length_append] at hfuel
    omega
  rw [hline] at hmember ⊢
  rw [readLines, skipBetween_of_isSolid hsolid]
  split
  · next heq => cases heq
  · next heq => cases heq
  · next heq =>
    cases heq
    exact absurd rfl hbracket
  · next heq =>
    cases heq
    exact absurd rfl hbracket
  · next heq =>
    cases heq
    simp only [hmember, assign?_of_isPlace hplace hkey]
    exact h fuel hshorter

lemma IsSimple.hasHeader (h : IsSimple v) : hasHeader v = false := by
  cases h with
  | scalar h => cases h <;> rfl
  | array h => rfl

lemma valueLines_cons (m : String × Toml) (ms : Members) (hm : hasHeader m.2 = false) :
    valueLines (m :: ms) = lineText m.1 m.2 ++ valueLines ms := by
  rw [valueLines, List.flatMap_cons]
  simp only [hm]
  rfl

/-- **The lines of a table's values put these into the current table.** -/
theorem takes_valueLines {ms : Members} (hplace : IsPlace path place)
    (hsimple : ∀ m ∈ ms, IsSimple m.2) (hkeys : ((inner ++ ms).map Prod.fst).Nodup) :
    Takes (valueLines ms) (path, place inner) (path, place (inner ++ ms)) := by
  induction ms generalizing inner with
  | nil =>
      rw [List.append_nil]
      exact .nil _
  | cons m ms ih =>
      have hm : IsSimple m.2 := hsimple m List.mem_cons_self
      have hassoc : inner ++ m :: ms = (inner ++ [m]) ++ ms := by simp
      have hkey : m.1 ∉ inner.map Prod.fst := key_notMem hkeys
      rw [valueLines_cons m ms hm.hasHeader, hassoc]
      rw [hassoc] at hkeys
      exact (takes_lineText hplace hkey hm).append
        (ih (fun n hn => hsimple n (List.mem_cons_of_mem _ hn)) hkeys)

lemma takes_valueLines_new {ms : Members} (hplace : IsPlace path place)
    (hsimple : ∀ m ∈ ms, IsSimple m.2) (hkeys : (ms.map Prod.fst).Nodup) :
    Takes (valueLines ms) (path, place []) (path, place ms) := by
  have h : Takes (valueLines ms) (path, place []) (path, place ([] ++ ms)) :=
    takes_valueLines hplace hsimple hkeys
  exact h

/-! ## Headers -/

lemma length_le_pathText (path : List String) : path.length ≤ (pathText path).length := by
  induction path with
  | nil => exact Nat.zero_le _
  | cons s path ih =>
      obtain ⟨c, tail, hkey, -⟩ := exists_keyText s
      cases path with
      | nil => simp [pathText, List.intercalate, hkey]
      | cons t path =>
          simp [pathText, List.intercalate, hkey] at ih ⊢
          omega

/-- The path of a header is read up to the closing brackets. -/
lemma readHeader?_pathText (hne : path ≠ []) (hdepth : path.length ≤ depthLimit)
    (more later : List Char) :
    readHeader? (']' :: more) (pathText path ++ ']' :: more ++ later) = some (path, later) := by
  have hfuel : path.length ≤ (pathText path ++ ']' :: more ++ later).length + 1 := by
    have := length_le_pathText path
    rw [List.length_append, List.length_append]
    omega
  have hends : ∀ c, (']' :: (more ++ later)).head? = some c → isBare c = false := by
    rintro c ⟨⟩
    rfl
  have hread : readKey? ((pathText path ++ ']' :: more ++ later).length + 1)
      (pathText path ++ ']' :: more ++ later) = some (path, ']' :: (more ++ later)) := by
    rw [List.append_assoc] at hfuel ⊢
    exact readKey?_pathText hne hfuel rfl hends (by simp)
  have hclose : (']' :: more).isPrefixOf (']' :: (more ++ later)) = true :=
    List.isPrefixOf_iff_prefix.mpr (List.prefix_append (']' :: more) later)
  rw [readHeader?, hread]
  simp only
  rw [if_neg, List.length_cons]
  · exact congrArg (fun r => some (path, r)) (List.drop_left' rfl)
  · rw [hclose]
    simpa using hdepth

lemma exists_pathText (hne : path ≠ []) : ∃ c tail, pathText path = c :: tail ∧ c ≠ '[' := by
  cases path with
  | nil => exact absurd rfl hne
  | cons s path =>
      obtain ⟨c, tail, hkey, -, hbracket⟩ := exists_keyText s
      cases path with
      | nil => exact ⟨c, tail, by simp [pathText, List.intercalate, hkey], hbracket⟩
      | cons t path =>
          exact ⟨c, _, by simp [pathText, List.intercalate, hkey]; rfl, hbracket⟩

lemma endLine?_newline (later : List Char) : endLine? ('\n' :: later) = some later := rfl

/-- The line of a header. -/
def headerText (repeated : Bool) (path : List String) : List Char :=
  if repeated then "[[".toList ++ pathText path ++ "]]\n".toList
  else '[' :: (pathText path ++ "]\n".toList)

/-- **A header makes the table that it opens the current one.** -/
theorem takes_headerText {root' : Members} {current : List String} (repeated : Bool)
    (hne : path ≠ []) (hdepth : path.length ≤ depthLimit)
    (hopen : (if repeated then openItem? path root else openTable? path root) = some root') :
    Takes (headerText repeated path) (current, root) (path, root') := by
  intro later result h fuel hfuel
  obtain ⟨c, tail, hpath, hbracket⟩ := exists_pathText hne
  obtain ⟨fuel, rfl⟩ := Nat.exists_eq_add_one_of_ne_zero (Nat.ne_zero_of_lt hfuel)
  have hshorter : later.length < fuel := by
    have : 0 < (headerText repeated path).length := by cases repeated <;> simp [headerText]
    rw [List.length_append] at hfuel
    omega
  cases repeated with
  | false =>
      have hheader := readHeader?_pathText hne hdepth [] ('\n' :: later)
      have htable : openTable? path root = some root' := hopen
      have htext : headerText false path ++ later
          = '[' :: (pathText path ++ [']'] ++ '\n' :: later) := by
        simp [headerText]
      rw [htext, readLines, skipBetween_of_isSolid rfl]
      split
      · next heq => cases heq
      · next heq => cases heq
      · next heq =>
        rw [hpath] at heq
        cases heq
        exact absurd rfl hbracket
      · next heq =>
        cases heq
        simp only [hheader, endLine?_newline, htable]
        exact h fuel hshorter
      · next hother heq =>
        cases heq
        exact absurd rfl (hother _)
  | true =>
      have hheader := readHeader?_pathText hne hdepth [']'] ('\n' :: later)
      have hitem : openItem? path root = some root' := hopen
      have htext : headerText true path ++ later
          = '[' :: '[' :: (pathText path ++ [']', ']'] ++ '\n' :: later) := by
        simp [headerText]
      rw [htext, readLines, skipBetween_of_isSolid rfl]
      simp only [hheader, endLine?_newline, hitem]
      exact h fuel hshorter

/-! ## Sections -/

/-- Sections, with empty lines between them and before others, take a reader from one state to
another. -/
def TakesAll (sections : List (List Char)) (s t : Cursor) : Prop :=
  ∀ later u, Takes (['\n'].intercalate later) t u →
    Takes (['\n'].intercalate (sections ++ later)) s u

lemma TakesAll.nil (s : Cursor) : TakesAll [] s s := fun _ _ h => h

lemma TakesAll.cons {first : List Char} {sections : List (List Char)} (h : Takes first s t)
    (hlater : TakesAll sections t u) : TakesAll (first :: sections) s u := by
  intro later w hw
  have hrest := hlater later w hw
  rw [List.cons_append]
  -- The empty line stands before whatever section comes next.
  cases hsections : sections ++ later with
  | nil =>
      rw [hsections] at hrest
      have htext : ['\n'].intercalate [first] = first ++ ['\n'].intercalate [] := by
        simp [List.intercalate]
      rw [htext]
      exact h.append hrest
  | cons second others =>
      rw [hsections] at hrest
      have htext : ['\n'].intercalate (first :: second :: others)
          = first ++ (['\n'] ++ ['\n'].intercalate (second :: others)) := by
        simp [List.intercalate]
      rw [htext]
      exact h.append ((Takes.newline t).append hrest)

lemma TakesAll.append {sections others : List (List Char)} (h : TakesAll sections s t)
    (hothers : TakesAll others t u) : TakesAll (sections ++ others) s u := by
  intro later w hw
  rw [List.append_assoc]
  exact h _ _ (hothers _ _ hw)

/-! ## Tables -/

section Tables

variable {ms own : Members} {current : List String}

lemma memberSections_append (path : List String) (ms ns : Members) :
    memberSections path (ms ++ ns) = memberSections path ms ++ memberSections path ns := by
  induction ms with
  | nil => rfl
  | cons m ms ih =>
      obtain ⟨k, v⟩ := m
      cases v <;> simp [memberSections, ih]

lemma memberSections_eq_nil (hsimple : ∀ m ∈ ms, IsSimple m.2) (path : List String) :
    memberSections path ms = [] := by
  induction ms with
  | nil => rfl
  | cons m ms ih =>
      obtain ⟨k, v⟩ := m
      have hv : IsSimple v := hsimple (k, v) List.mem_cons_self
      have hrest := ih fun n hn => hsimple n (List.mem_cons_of_mem _ hn)
      cases hv with
      | scalar h => cases h <;> simpa [memberSections] using hrest
      | array h => simpa [memberSections] using hrest

lemma valueLines_append (ms ns : Members) :
    valueLines (ms ++ ns) = valueLines ms ++ valueLines ns :=
  List.flatMap_append

lemma valueLines_ne_nil (hne : ms ≠ []) (hsimple : ∀ m ∈ ms, IsSimple m.2) :
    valueLines ms ≠ [] := by
  cases ms with
  | nil => exact absurd rfl hne
  | cons m ms =>
      rw [valueLines_cons m ms (hsimple m List.mem_cons_self).hasHeader, lineText]
      simp

/-- A table that is shown is its header, its values, and then its tables. -/
lemma sections_table {repeated : Bool} {origin : Origin} (hpath : path ≠ [])
    (hshown : repeated = true ∨ ms = [] ∨ valueLines ms ≠ []) :
    sections path repeated (.table origin ms)
      = (headerText repeated path ++ valueLines ms) :: memberSections path ms := by
  have hne : path.isEmpty = false := List.isEmpty_eq_false_iff.mpr hpath
  have hbool : (repeated || ms.isEmpty || !(valueLines ms).isEmpty) = true := by
    rcases hshown with rfl | rfl | h
    · rfl
    · rw [List.isEmpty_nil, Bool.or_true, Bool.true_or]
    · rw [List.isEmpty_eq_false_iff.mpr h, Bool.not_false, Bool.or_true]
  rw [sections]
  simp only [hne, hbool, if_true, Bool.false_eq_true, if_false]
  rfl

/-- A table with simple values is put at the end of the table at a place. -/
lemma takes_table (hplace : IsPlace path place) (hkey : key ∉ inner.map Prod.fst)
    (hdepth : path.length < depthLimit) (hsimple : ∀ m ∈ own, IsSimple m.2)
    (hkeys : (own.map Prod.fst).Nodup) :
    Takes (headerText false (path ++ [key]) ++ valueLines own) (current, place inner)
      (path ++ [key], place (inner ++ [(key, .table .header own)])) := by
  have hbelow := hplace.append (.table key inner hkey .root)
  have hlines := takes_valueLines_new hbelow hsimple hkeys
  refine (takes_headerText false (by simp) ?_ (openTable?_of_isPlace hplace hkey)).append hlines
  rw [List.length_append]
  exact hdepth

/-- The tables under a repeated header, if there are any yet. -/
def tablesMember (key : String) (done : List Toml) : Members :=
  if done.isEmpty then [] else [(key, .tables done)]

/-- A further table with simple values is put under a repeated header. -/
lemma takes_item (hplace : IsPlace path place) (hkey : key ∉ inner.map Prod.fst)
    (hdepth : path.length < depthLimit) (hsimple : ∀ m ∈ own, IsSimple m.2)
    (hkeys : (own.map Prod.fst).Nodup) (done : List Toml) :
    Takes (headerText true (path ++ [key]) ++ valueLines own)
      (current, place (inner ++ tablesMember key done))
      (path ++ [key], place (inner ++ [(key, .tables (done ++ [.table .header own]))])) := by
  have hbelow := hplace.append (.tables key inner hkey done .root)
  have hlines := takes_valueLines_new hbelow hsimple hkeys
  have hopen : openItem? (path ++ [key]) (place (inner ++ tablesMember key done))
      = some (place (inner ++ [(key, .tables (done ++ [.table .header []]))])) := by
    rw [tablesMember]
    split_ifs with hnone
    · rw [List.isEmpty_iff.mp hnone, List.append_nil]
      exact openItem?_of_isPlace hplace hkey
    · exact openItem?_of_isPlace_tables hplace hkey done
  refine (takes_headerText true (by simp) ?_ hopen).append hlines
  rw [List.length_append]
  exact hdepth

/-! ## Tables in tables -/

/-- What the innermost tables of a document have: simple values under distinct keys. -/
structure IsFlat (ms : Members) : Prop where
  simple : ∀ m ∈ ms, IsSimple m.2
  keys : (ms.map Prod.fst).Nodup

lemma IsFlat.eq_nil_or_valueLines_ne_nil (h : IsFlat ms) : ms = [] ∨ valueLines ms ≠ [] := by
  by_cases hne : ms = []
  · exact .inl hne
  · exact .inr (valueLines_ne_nil hne h.simple)

/-- A flat table is read. -/
lemma takesAll_flat (hplace : IsPlace path place) (hkey : key ∉ inner.map Prod.fst)
    (hdepth : path.length < depthLimit) (hflat : IsFlat ms) (current : List String) :
    TakesAll (sections (path ++ [key]) false (.table .header ms)) (current, place inner)
      (path ++ [key], place (inner ++ [(key, .table .header ms)])) := by
  rw [sections_table (by simp) (.inr hflat.eq_nil_or_valueLines_ne_nil),
    memberSections_eq_nil hflat.simple]
  exact .cons (takes_table hplace hkey hdepth hflat.simple hflat.keys) (.nil _)

/-- Flat tables under a repeated header are read, after those that are there already. -/
lemma takesAll_items (hplace : IsPlace path place) (hkey : key ∉ inner.map Prod.fst)
    (hdepth : path.length < depthLimit) {items : List Members} (hflat : ∀ ms ∈ items, IsFlat ms)
    (done : List Toml) (current : List String) :
    ∃ last, TakesAll (itemSections (path ++ [key]) (items.map (.table .header)))
      (current, place (inner ++ tablesMember key done))
      (last, place (inner ++ tablesMember key (done ++ items.map (.table .header)))) := by
  induction items generalizing done current with
  | nil => exact ⟨current, by rw [List.map_nil, List.append_nil]; exact .nil _⟩
  | cons ms items ih =>
      have hms : IsFlat ms := hflat ms List.mem_cons_self
      have hitem : Takes _ (current, _) _ := takes_item hplace hkey hdepth hms.simple hms.keys done
      obtain ⟨last, hrest⟩ := ih (fun ns hns => hflat ns (List.mem_cons_of_mem _ hns))
        (done ++ [.table .header ms]) (path ++ [key])
      have hdone : tablesMember key (done ++ [.table .header ms])
          = [(key, .tables (done ++ [.table .header ms]))] := by
        simp [tablesMember]
      rw [hdone, List.append_assoc] at hrest
      refine ⟨last, ?_⟩
      rw [List.map_cons, itemSections, sections_table (by simp) (.inl rfl),
        memberSections_eq_nil hms.simple, List.singleton_append]
      exact .cons hitem hrest

/-- A table whose values stand before a table or tables is its header, its values, and these. -/
lemma sections_own {repeated : Bool} {origin : Origin} (hpath : path ≠ []) (hown : IsFlat own)
    (hne : own ≠ []) {label : String} (hv : hasHeader v) :
    sections path repeated (.table origin (own ++ [(label, v)]))
      = (headerText repeated path ++ valueLines own) :: memberSections path [(label, v)] := by
  have hlast : valueLines [(label, v)] = [] := by
    rw [valueLines, List.flatMap_cons]
    simp only [hv]
    rfl
  have hlines : valueLines (own ++ [(label, v)]) = valueLines own := by
    rw [valueLines_append, hlast, List.append_nil]
  have hshown : valueLines (own ++ [(label, v)]) ≠ [] :=
    hlines ▸ valueLines_ne_nil hne hown.simple
  rw [sections_table hpath (.inr (.inr hshown)), hlines, memberSections_append,
    memberSections_eq_nil hown.simple, List.nil_append]

/-- A table with values and tables under a repeated header is read. -/
lemma takesAll_withItems (hplace : IsPlace path place) (hkey : key ∉ inner.map Prod.fst)
    (hdepth : path.length + 1 < depthLimit) (hown : IsFlat own) (hne : own ≠ []) {label : String}
    (hlabel : label ∉ own.map Prod.fst) {items : List Members} (hitems : items ≠ [])
    (hflat : ∀ ms ∈ items, IsFlat ms) (current : List String) :
    ∃ last, TakesAll
      (sections (path ++ [key]) false
        (.table .header (own ++ [(label, .tables (items.map (.table .header)))])))
      (current, place inner)
      (last, place (inner ++ [(key, .table .header
        (own ++ [(label, .tables (items.map (.table .header)))]))])) := by
  have hempty : (items.map (Toml.table .header)).isEmpty = false := by simpa using hitems
  have hheader : hasHeader (.tables (items.map (.table .header))) = true := by
    rw [hasHeader, hempty]
    rfl
  have hbelow := hplace.append (.table key inner hkey .root)
  have hlength : (path ++ [key]).length < depthLimit := by rwa [List.length_append]
  have hfirst : Takes _ (current, _) _ :=
    takes_table hplace hkey (Nat.lt_of_succ_lt hdepth) hown.simple hown.keys
  obtain ⟨last, hrest⟩ := takesAll_items hbelow hlabel hlength hflat [] (path ++ [key])
  refine ⟨last, ?_⟩
  rw [sections_own (by simp) hown hne hheader]
  rw [tablesMember, tablesMember, List.nil_append, hempty, List.isEmpty_nil, if_pos rfl,
    if_neg Bool.false_ne_true, List.append_nil] at hrest
  have hsections : memberSections (path ++ [key]) [(label, .tables (items.map (.table .header)))]
      = itemSections (path ++ [key] ++ [label]) (items.map (.table .header)) := by
    simp [memberSections]
  rw [hsections]
  exact TakesAll.cons hfirst hrest

/-- A table with values and a flat table in it is read. -/
lemma takesAll_withTable (hplace : IsPlace path place) (hkey : key ∉ inner.map Prod.fst)
    (hdepth : path.length + 1 < depthLimit) (hown : IsFlat own) (hne : own ≠ []) {label : String}
    (hlabel : label ∉ own.map Prod.fst) (hflat : IsFlat ms) (current : List String) :
    TakesAll
      (sections (path ++ [key]) false (.table .header (own ++ [(label, .table .header ms)])))
      (current, place inner)
      (path ++ [key] ++ [label], place (inner ++ [(key, .table .header
        (own ++ [(label, .table .header ms)]))])) := by
  have hbelow := hplace.append (.table key inner hkey .root)
  have hlength : (path ++ [key]).length < depthLimit := by rwa [List.length_append]
  have hfirst : Takes _ (current, _) _ :=
    takes_table hplace hkey (Nat.lt_of_succ_lt hdepth) hown.simple hown.keys
  have hrest := takesAll_flat hbelow hlabel hlength hflat (path ++ [key])
  rw [sections_own (by simp) hown hne rfl]
  have hsections : memberSections (path ++ [key]) [(label, .table .header ms)]
      = sections (path ++ [key] ++ [label]) false (.table .header ms) := by
    simp [memberSections]
  rw [hsections]
  exact TakesAll.cons hfirst hrest

/-! ## Documents of tables -/

/-- A table is put at the end of any root without such a member by its sections, of which the first
begins with a header. -/
structure IsAdded (key : String) (v : Toml) : Prop where
  table : ∃ origin ms, v = .table origin ms
  header : ∃ text more, sections [key] false v = ('[' :: text) :: more
  takes : ∀ (current : List String) (root : Members), key ∉ root.map Prod.fst →
    ∃ last, TakesAll (sections [key] false v) (current, root) (last, root ++ [(key, v)])

lemma isAdded_flat (hflat : IsFlat ms) : IsAdded key (.table .header ms) where
  table := ⟨_, _, rfl⟩
  header := by
    rw [sections_table (by simp) (.inr hflat.eq_nil_or_valueLines_ne_nil)]
    exact ⟨_, _, rfl⟩
  takes current _ hkey := ⟨_, takesAll_flat .root hkey (by decide) hflat current⟩

lemma isAdded_withItems (hown : IsFlat own) (hne : own ≠ []) {label : String}
    (hlabel : label ∉ own.map Prod.fst) {items : List Members} (hitems : items ≠ [])
    (hflat : ∀ ms ∈ items, IsFlat ms) :
    IsAdded key (.table .header (own ++ [(label, .tables (items.map (.table .header)))])) where
  table := ⟨_, _, rfl⟩
  header := by
    rw [sections_own (by simp) hown hne (by simpa [hasHeader] using hitems)]
    exact ⟨_, _, rfl⟩
  takes current _ hkey :=
    takesAll_withItems .root hkey (by decide) hown hne hlabel hitems hflat current

lemma isAdded_withTable (hown : IsFlat own) (hne : own ≠ []) {label : String}
    (hlabel : label ∉ own.map Prod.fst) (hflat : IsFlat ms) :
    IsAdded key (.table .header (own ++ [(label, .table .header ms)])) where
  table := ⟨_, _, rfl⟩
  header := by
    rw [sections_own (by simp) hown hne rfl]
    exact ⟨_, _, rfl⟩
  takes current _ hkey :=
    ⟨_, takesAll_withTable .root hkey (by decide) hown hne hlabel hflat current⟩

/-- The sections of tables put them into the root, one after the other. -/
lemma takesAll_added {tables : Members} (hadded : ∀ m ∈ tables, IsAdded m.1 m.2)
    (hkeys : ((root ++ tables).map Prod.fst).Nodup) (current : List String) :
    ∃ last, TakesAll (tables.flatMap fun m => sections [m.1] false m.2) (current, root)
      (last, root ++ tables) := by
  induction tables generalizing current root with
  | nil => exact ⟨current, by rw [List.append_nil]; exact .nil _⟩
  | cons m tables ih =>
      have hassoc : root ++ m :: tables = (root ++ [m]) ++ tables := by simp
      have hkey : m.1 ∉ root.map Prod.fst := key_notMem hkeys
      obtain ⟨next, hfirst⟩ := (hadded m List.mem_cons_self).takes current root hkey
      rw [hassoc] at hkeys ⊢
      obtain ⟨last, hrest⟩ := ih (fun n hn => hadded n (List.mem_cons_of_mem _ hn)) hkeys next
      exact ⟨last, hfirst.append hrest⟩

/-- A root with such tables is written as their sections. -/
lemma sections_root {tables : Members} (hadded : ∀ m ∈ tables, IsAdded m.1 m.2) :
    sections [] false (.table .header tables)
      = tables.flatMap fun m => sections [m.1] false m.2 := by
  have hlines : valueLines tables = [] := by
    rw [valueLines, List.flatMap_eq_nil_iff]
    rintro ⟨key, v⟩ hm
    obtain ⟨o, ms, rfl⟩ := (hadded (key, v) hm).table
    rfl
  have hmembers : memberSections [] tables = tables.flatMap fun m => sections [m.1] false m.2 := by
    clear hlines
    induction tables with
    | nil => rfl
    | cons m tables ih =>
        obtain ⟨key, v⟩ := m
        obtain ⟨o, ms, rfl⟩ := (hadded (key, v) List.mem_cons_self).table
        rw [memberSections, ih fun n hn => hadded n (List.mem_cons_of_mem _ hn)]
        rfl
  rw [sections, hlines, hmembers]
  rfl

/-- The document of a root with such tables begins with a header. -/
lemma head?_write_ne {tables : Members} (hadded : ∀ m ∈ tables, IsAdded m.1 m.2) :
    (write (.table .header tables)).toList.head? ≠ some '\uFEFF' := by
  rw [write, String.toList_ofList, sections_root hadded]
  cases tables with
  | nil => exact nofun
  | cons m tables =>
      obtain ⟨text, more, hheader⟩ := (hadded m List.mem_cons_self).header
      obtain ⟨tail, htext⟩ : ∃ tail, ['\n'].intercalate ((m :: tables).flatMap fun m =>
          sections [m.1] false m.2) = '[' :: tail := by
        rw [List.flatMap_cons, hheader, List.cons_append]
        cases more ++ tables.flatMap fun m => sections [m.1] false m.2 with
        | nil => exact ⟨text, by simp [List.intercalate]⟩
        | cons second others => exact ⟨_, by simp [List.intercalate]; rfl⟩
      rw [htext, List.head?_cons]
      decide

/-- **A root with tables whose sections are read is read from its document.** -/
theorem read?_write {tables : Members} (hadded : ∀ m ∈ tables, IsAdded m.1 m.2)
    (hkeys : (tables.map Prod.fst).Nodup) :
    read? (write (.table .header tables)) = some (.table .header tables) := by
  have hroot : (([] ++ tables : Members).map Prod.fst).Nodup := hkeys
  obtain ⟨last, h⟩ := takesAll_added hadded hroot []
  rw [← sections_root hadded, List.nil_append] at h
  have htakes := h [] _ (Takes.nil (last, tables))
  rw [List.append_nil] at htakes
  have htext : Takes (write (.table .header tables)).toList ([], []) (last, tables) := by
    rw [write, String.toList_ofList]
    exact htakes
  exact read?_of_takes htext (head?_write_ne hadded)

end Tables

end ReviewStream.Toml
