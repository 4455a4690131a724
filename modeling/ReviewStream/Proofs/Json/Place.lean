import ReviewStream.Proofs.Json.Reading

/-!
# Where a value stands

A path of keys leads from a value to a value inside it.  In the text of the outer value the inner
one stands somewhere: after the colon behind the last key of the path.

* `at?`: the value at the end of a path.
* `locateRead?`: that value in a text that is read, with the text from it on.  Of equal keys the
  last one counts.
* `locateWritten?`: that value in the text that is written, with the text from it on.
* **`at?_of_locateRead?`**, **`at?_of_locateWritten?`**: both find the value at the end of the path.
-/

namespace ReviewStream.Json

variable {α β : Type}

/-- The value at the end of a path. -/
def at? : List String → Json → Option Json
  | [], v => some v
  | key :: path, v => (v.get? key).bind (at? path)

/-- What the last member with a key has. -/
def lastOf? (key : String) : List (String × α) → Option α
  | [] => none
  | (k, a) :: rest => (lastOf? key rest).or (if k = key then some a else none)

/-! ## Members in the order of their keys -/

lemma find?_insert (key k : String) (v : Json) (members : List (String × Json)) :
    find? key (insert k v members) = if k = key then some v else find? key members := by
  induction members with
  | nil => simp [insert, find?]
  | cons member rest ih =>
      obtain ⟨l, w⟩ := member
      by_cases hkey : k = key
      · subst hkey
        rw [insert, if_pos rfl]
        split_ifs with hsame
        · rw [find?, if_pos rfl]
        · rw [find?, if_pos rfl]
        · rw [find?, if_neg (Ne.symm hsame), ih, if_pos rfl]
      · rw [insert, if_neg hkey]
        split_ifs with hsame
        · rw [find?, if_neg hkey, find?, if_neg (hsame ▸ hkey)]
        · rw [find?, if_neg hkey]
        · rw [find?, ih, if_neg hkey, find?]

lemma find?_foldl_insert (key : String) (members sorted : List (String × Json)) :
    find? key (members.foldl (fun sorted (k, v) => insert k v sorted) sorted)
      = (lastOf? key members).or (find? key sorted) := by
  induction members generalizing sorted with
  | nil => rfl
  | cons member rest ih =>
      rw [List.foldl_cons, ih, find?_insert, lastOf?, Option.or_assoc]
      congr 1
      split_ifs <;> rfl

/-- Of equal keys the last one is kept. -/
lemma find?_sortMembers (key : String) (members : List (String × Json)) :
    find? key (sortMembers members) = lastOf? key members := by
  rw [sortMembers, find?_foldl_insert, find?, Option.or_none]

lemma lastOf?_map (f : α → β) (key : String) (members : List (String × α)) :
    lastOf? key (members.map fun (k, a) => (k, f a)) = (lastOf? key members).map f := by
  induction members with
  | nil => rfl
  | cons member rest ih =>
      rw [List.map_cons, lastOf?, lastOf?, ih]
      cases lastOf? key rest with
      | some a => rfl
      | none =>
          simp only [Option.map_none, Option.none_or]
          split_ifs <;> rfl

lemma mem_of_lastOf? {key : String} {a : α} {members : List (String × α)}
    (h : lastOf? key members = some a) : (key, a) ∈ members := by
  induction members with
  | nil => cases h
  | cons member rest ih =>
      obtain ⟨k, b⟩ := member
      rw [lastOf?, Option.or_eq_some_iff] at h
      rcases h with hlater | ⟨-, hhere⟩
      · exact List.mem_cons_of_mem _ (ih hlater)
      · split_ifs at hhere with hkey
        cases hhere
        rw [hkey]
        exact List.mem_cons_self

/-! ## Reading members -/

/-- What becomes of the values does not change how members are read. -/
lemma readMembers_map {value : List Char → Reading α} {other : List Char → Reading β} (f : α → β)
    (h : ∀ cs, other cs = (value cs).map fun (a, rest) => (f a, rest)) (fuel : Nat)
    (cs : List Char) :
    readMembers other fuel cs
      = (readMembers value fuel cs).map fun (members, rest) =>
        (members.map fun (k, a) => (k, f a), rest) := by
  induction fuel generalizing cs with
  | zero => rfl
  | succ fuel ih =>
      rw [readMembers, readMembers]
      cases readKey cs with
      | none => rfl
      | some key =>
          dsimp only
          rw [h]
          cases value key.2 with
          | none => rfl
          | some read =>
              dsimp only [Option.map_some]
              split
              · rfl
              · rw [ih, Option.map_map, Option.map_map]
                rfl
              · rfl

/-- An object is what its members make. -/
lemma eq_object_of_readValue {depth : Nat} {cs inside rest later : List Char} {v : Json}
    {members : List (String × Json)} (hopen : skip cs = '{' :: inside)
    (hread : readValue (depth + 1) cs = some (v, rest))
    (hmembers : readMembers (readValue depth) (skip inside).length (skip inside)
      = some (members, later)) : v = .object (sortMembers members) := by
  rw [readValue, hopen] at hread
  simp only at hread
  split_ifs at hread
  split at hread
  next after hclose =>
    -- A brace is not a key.
    rw [hclose] at hmembers
    cases hmembers
  next =>
    rw [hmembers] at hread
    cases hread
    rfl

/-! ## Texts that are read -/

/-- Reads a value and tells where it stands. -/
def placed (value : List Char → Reading α) (cs : List Char) : Reading (α × List Char) :=
  (value cs).map fun (a, rest) => ((a, cs), rest)

/-- The value at the end of a path in a text that is read, and the text from that value on. -/
def locateRead? : (depth : Nat) → List String → List Char → Option (Json × List Char)
  | depth, [], cs => (readValue depth cs).map fun (v, _) => (v, cs)
  | 0, _ :: _, _ => none
  | depth + 1, key :: path, cs =>
    match skip cs with
    | '{' :: rest => do
      let (members, _) ← readMembers (placed (readValue depth)) (skip rest).length (skip rest)
      let (_, place) ← lastOf? key members
      locateRead? depth path place
    | _ => none

lemma placed_suffix {depth : Nat} {cs rest : List Char} {a : Json × List Char}
    (h : placed (readValue depth) cs = some (a, rest)) : rest <:+ cs := by
  obtain ⟨read, hread, hresult⟩ := Option.map_eq_some_iff.mp h
  cases hresult
  exact readValue_suffix hread

/-- The reader that tells places reads the same members as the one that does not. -/
lemma readMembers_of_placed {depth fuel : Nat} {cs rest : List Char}
    {members : List (String × Json × List Char)}
    (h : readMembers (placed (readValue depth)) fuel cs = some (members, rest)) :
    readMembers (readValue depth) fuel cs = some (members.map fun (k, a) => (k, a.1), rest) := by
  have hforget (cs : List Char) : readValue depth cs
      = (placed (readValue depth) cs).map fun (a, rest) => (a.1, rest) := by
    rw [placed, Option.map_map]
    exact Option.map_id'.symm
  rw [readMembers_map Prod.fst hforget, h]
  rfl

/-- **What is located is what is at the end of the path**, and it is read there, behind a colon. -/
theorem at?_of_locateRead? {depth : Nat} {path : List String} {cs rest place : List Char}
    {v w : Json} (hread : readValue depth cs = some (v, rest))
    (hlocate : locateRead? depth path cs = some (w, place)) :
    v.at? path = some w ∧ (∃ depth after, readValue depth place = some (w, after))
      ∧ (path ≠ [] → ':' :: place <:+ cs) := by
  induction path generalizing depth cs rest v with
  | nil =>
      rw [locateRead?, hread] at hlocate
      cases hlocate
      exact ⟨rfl, ⟨depth, rest, hread⟩, fun hpath => absurd rfl hpath⟩
  | cons key path ih =>
      cases depth with
      | zero => cases hread
      | succ depth =>
          rw [locateRead?] at hlocate
          split at hlocate
          next inside hopen =>
            obtain ⟨⟨members, later⟩, hmembers, hfound⟩ := Option.bind_eq_some_iff.mp hlocate
            obtain ⟨⟨u, start⟩, hlast, hdeep⟩ := Option.bind_eq_some_iff.mp hfound
            have hinner : locateRead? depth path start = some (w, place) := hdeep
            have hobject := eq_object_of_readValue hopen hread (readMembers_of_placed hmembers)
            obtain ⟨there, after, hthere, hcolon⟩ :=
              exists_of_mem_readMembers placed_suffix hmembers _ (mem_of_lastOf? hlast)
            obtain ⟨read, hstart, hplace⟩ := Option.map_eq_some_iff.mp hthere
            cases hplace
            have hinside : ':' :: start <:+ cs := by
              have hwhole : '{' :: inside <:+ cs := hopen ▸ skip_suffix cs
              exact hcolon.trans ((skip_suffix inside).trans ((List.suffix_cons _ _).trans hwhole))
            obtain ⟨hat, hwhere, hdeeper⟩ := ih hstart hinner
            refine ⟨?_, hwhere, fun _ => ?_⟩
            · rw [at?, hobject, get?, find?_sortMembers, lastOf?_map, hlast]
              exact hat
            · cases path with
              | nil =>
                  rw [locateRead?, hstart] at hinner
                  cases hinner
                  exact hinside
              | cons inner path =>
                  exact (hdeeper (List.cons_ne_nil _ _)).trans
                    ((List.suffix_cons _ _).trans hinside)
          next => cases hlocate

/-! ## Texts that are written -/

/-- The first member with a key: its value, and the members behind it. -/
def memberAt? (key : String) : List (String × Json) → Option (Json × List (String × Json))
  | [] => none
  | (k, v) :: later => if k = key then some (v, later) else memberAt? key later

/-- What is written behind a member. -/
def writeLater : List (String × Json) → List Char
  | [] => []
  | later => ',' :: writeMembers later

/-- The value at the end of a path in the text that is written, and the text from that value on;
`tail` is what follows the whole value. -/
def locateWritten? : List String → Json → (tail : List Char) → Option (Json × List Char)
  | [], v, tail => some (v, v.write ++ tail)
  | key :: path, .object members, tail =>
    (memberAt? key members).bind fun (v, later) =>
      locateWritten? path v (writeLater later ++ '}' :: tail)
  | _, _, _ => none

lemma find?_eq_memberAt? (key : String) (members : List (String × Json)) :
    find? key members = (memberAt? key members).map (·.1) := by
  induction members with
  | nil => rfl
  | cons member rest ih =>
      rw [find?, memberAt?, ih]
      split_ifs <;> rfl

lemma writeMembers_cons (k : String) (v : Json) (later : List (String × Json)) :
    writeMembers ((k, v) :: later) = quoted k ++ ':' :: (v.write ++ writeLater later) := by
  cases later with
  | nil => rw [writeMembers, writeLater, List.append_nil]
  | cons => rw [writeMembers, writeLater] <;> simp

/-- The value of a member stands behind a colon. -/
lemma colon_suffix_of_memberAt? {key : String} {v : Json} {members later : List (String × Json)}
    (h : memberAt? key members = some (v, later)) :
    ':' :: (v.write ++ writeLater later) <:+ writeMembers members := by
  induction members with
  | nil => cases h
  | cons member rest ih =>
      obtain ⟨k, w⟩ := member
      rw [memberAt?] at h
      rw [writeMembers_cons]
      split_ifs at h with hkey
      · cases h
        exact List.suffix_append _ _
      · have hlater : writeMembers rest <:+ writeLater rest := by
          cases rest with
          | nil => cases h
          | cons => exact List.suffix_cons _ _
        have hbehind : writeLater rest <:+ quoted k ++ ':' :: (w.write ++ writeLater rest) :=
          (List.suffix_append _ _).trans
            ((List.suffix_cons _ _).trans (List.suffix_append _ _))
        exact (ih h).trans (hlater.trans hbehind)

/-- **What is located is what is at the end of the path**, and it is written there, behind a
colon. -/
theorem at?_of_locateWritten? {path : List String} {v w : Json} {tail place : List Char}
    (h : locateWritten? path v tail = some (w, place)) :
    v.at? path = some w ∧ (∃ after, place = w.write ++ after)
      ∧ (path ≠ [] → ':' :: place <:+ v.write ++ tail) := by
  induction path generalizing v tail with
  | nil =>
      cases h
      exact ⟨rfl, ⟨tail, rfl⟩, fun hpath => absurd rfl hpath⟩
  | cons key path ih =>
      cases v with
      | object members =>
          obtain ⟨⟨u, later⟩, hmember, hinner⟩ := Option.bind_eq_some_iff.mp h
          obtain ⟨hat, hafter, hdeeper⟩ := ih hinner
          have hinside : ':' :: (u.write ++ (writeLater later ++ '}' :: tail))
              <:+ (object members).write ++ tail := by
            obtain ⟨before, hbefore⟩ := colon_suffix_of_memberAt? hmember
            refine ⟨'{' :: before, ?_⟩
            rw [write, ← hbefore]
            simp
          refine ⟨?_, hafter, fun _ => ?_⟩
          · rw [at?, get?, find?_eq_memberAt?, hmember]
            exact hat
          · cases path with
            | nil =>
                cases hinner
                exact hinside
            | cons inner path =>
                exact (hdeeper (List.cons_ne_nil _ _)).trans ((List.suffix_cons _ _).trans hinside)
      | _ => cases h

end ReviewStream.Json
