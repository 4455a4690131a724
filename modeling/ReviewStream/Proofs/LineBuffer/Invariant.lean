import ReviewStream.LineBuffer.Source
import ReviewStream.Proofs.Text.Pieces

/-!
# What a line buffer keeps to

A buffer holds the open line in two parts, whole buffers that the line has filled and the octets
that are in the buffer now.  Seen as one list of octets (`held`) it is a machine that knows only
the open piece of what it has taken.

* `LineBuffer.Sound`: everything in the buffer has been searched, none of it is a line feed, and
  fragments are whole buffers.
* `LineBuffer.Takes`: a buffer takes octets; their ended pieces become lines and the open piece is
  held.
* **`receive_takes`**, **`feed_takes`**: however octets get into the buffer, it takes them.
-/

namespace ReviewStream.LineBuffer

open Text (Octet endedPieces openPiece)

variable {b b' b'' : LineBuffer} {octets more : List Octet}

/-! ## The octets that are held -/

/-- The octets of the open line. -/
def held (b : LineBuffer) : List Octet := b.fragments.flatten ++ b.filled

/-- What a buffer keeps to while it is in use. -/
structure Sound (b : LineBuffer) : Prop where
  scanned_eq : b.scanned = b.filled.length
  clean : lineFeed ∉ b.held
  full : ∀ f ∈ b.fragments, f.length = b.capacity

/-- A new buffer holds nothing. -/
lemma sound_ofCapacity (capacity : Nat) : (ofCapacity capacity).Sound where
  scanned_eq := rfl
  clean := by simp [held, ofCapacity]
  full := by simp [ofCapacity]

/-- Fragments are never empty, so a buffer admits to an open line exactly when it holds octets. -/
lemma Sound.hasPartial_iff (hb : b.Sound) : b.hasPartial = true ↔ b.held ≠ [] := by
  have hfragment : ∀ f ∈ b.fragments, f ≠ [] := by
    rintro f hf rfl
    have := hb.full [] hf
    have := b.room_pos
    simp at *
    omega
  constructor
  · intro h hheld
    obtain ⟨hflat, hfilled⟩ := List.append_eq_nil_iff.mp hheld
    have hnone : b.fragments = [] := by
      refine List.eq_nil_iff_forall_not_mem.mpr fun f hf => hfragment f hf ?_
      exact List.flatten_eq_nil_iff.mp hflat f hf
    simp [hasPartial, hnone, hfilled] at h
  · intro h
    by_contra hpartial
    simp only [hasPartial, Bool.or_eq_true, Bool.not_eq_true', List.isEmpty_eq_false_iff, not_or,
      not_not] at hpartial
    exact h (by simp [held, hpartial.1, hpartial.2])

/-! ## Keeping a tail -/

section Keep

variable {fragments : List (List Octet)} {tail : List Octet} {lines : List String}

/-- A tail is held, be it in the buffer or as one more fragment. -/
@[simp] lemma held_keep : (b.keep fragments tail lines).held = fragments.flatten ++ tail := by
  rw [keep, held]
  split_ifs <;> simp

@[simp] lemma lines_keep : (b.keep fragments tail lines).lines = lines := by
  rw [keep]
  split_ifs <;> rfl

@[simp] lemma capacity_keep : (b.keep fragments tail lines).capacity = b.capacity := by
  rw [keep]
  split_ifs <;> rfl

/-- Keeping a tail that fits is sound. -/
lemma sound_keep (hclean : lineFeed ∉ fragments.flatten ++ tail)
    (hfull : ∀ f ∈ fragments, f.length = b.capacity) (hfits : tail.length ≤ b.capacity) :
    (b.keep fragments tail lines).Sound where
  scanned_eq := by
    rw [keep]
    split_ifs <;> rfl
  clean := by rwa [held_keep]
  full := by
    rw [keep]
    split_ifs with h
    · exact hfull
    · intro f hf
      rcases List.mem_append.mp hf with hf | hf
      · exact hfull f hf
      · rw [List.mem_singleton.mp hf]
        exact Nat.le_antisymm hfits (Nat.le_of_not_lt h)

end Keep

/-! ## Taking octets -/

/-- A buffer becomes another one by taking octets. -/
structure Takes (b : LineBuffer) (octets : List Octet) (b' : LineBuffer) : Prop where
  sound : b'.Sound
  capacity_eq : b'.capacity = b.capacity
  held_eq : b'.held = openPiece lineFeed (b.held ++ octets)
  lines_eq : b'.lines = b.lines ++ (endedPieces lineFeed (b.held ++ octets)).map lineText

/-- Taking nothing changes nothing. -/
lemma Takes.refl (hb : b.Sound) : b.Takes [] b where
  sound := hb
  capacity_eq := rfl
  held_eq := by rw [List.append_nil, Text.openPiece_of_notMem hb.clean]
  lines_eq := by simp [Text.endedPieces_of_notMem hb.clean]

/-- Octets may be taken in two portions. -/
lemma Takes.trans (h : b.Takes octets b') (h' : b'.Takes more b'') :
    b.Takes (octets ++ more) b'' where
  sound := h'.sound
  capacity_eq := h'.capacity_eq.trans h.capacity_eq
  held_eq := by
    rw [h'.held_eq, h.held_eq, ← Text.openPiece_append, List.append_assoc]
  lines_eq := by
    rw [h'.lines_eq, h.lines_eq, h.held_eq, ← List.append_assoc b.held,
      Text.endedPieces_append lineFeed (b.held ++ octets), List.map_append, List.append_assoc]

/-- New content without a line feed is added to what is held. -/
lemma commit_takes_of_notMem (hb : b.Sound) (hfits : octets.length ≤ b.room)
    (h : lineFeed ∉ octets) : b.Takes octets (b.commit (b.filled ++ octets)) := by
  have hclean : lineFeed ∉ b.held ++ octets := by simpa [hb.clean] using h
  have hcommit : b.commit (b.filled ++ octets)
      = b.keep b.fragments (b.filled ++ octets) b.lines := by
    rw [commit, hb.scanned_eq, List.drop_left, Text.splitAll_eq_splitOn,
      List.splitOn_eq_singleton h]
  have hheld : b.fragments.flatten ++ (b.filled ++ octets) = b.held ++ octets := by
    rw [held, List.append_assoc]
  rw [hcommit]
  constructor
  · refine sound_keep (hheld ▸ hclean) hb.full ?_
    have := b.room_pos
    rw [room] at hfits
    rw [List.length_append]
    omega
  · exact capacity_keep
  · rw [held_keep, hheld, Text.openPiece_of_notMem hclean]
  · rw [lines_keep, Text.endedPieces_of_notMem hclean, List.map_nil, List.append_nil]

/-- New content with a line feed completes what is held, and only its open piece stays. -/
lemma commit_takes_of_mem (hb : b.Sound) (hfits : octets.length ≤ b.room)
    (h : lineFeed ∈ octets) : b.Takes octets (b.commit (b.filled ++ octets)) := by
  obtain ⟨first, second, rest, hsplit⟩ := Text.exists_splitOn_eq_cons_cons h
  have htail : (second :: rest).getLastD [] = openPiece lineFeed octets := by
    rw [Text.openPiece_eq_getLastD, hsplit]
    rfl
  have hended : endedPieces lineFeed (b.held ++ octets)
      = (b.held ++ first) :: (second :: rest).dropLast := by
    rw [endedPieces, Text.splitOn_append_of_notMem hb.clean, hsplit]
    rfl
  have hcommit : b.commit (b.filled ++ octets)
      = b.keep [] (openPiece lineFeed octets)
          (b.lines ++ (endedPieces lineFeed (b.held ++ octets)).map lineText) := by
    rw [hended, ← htail, commit, hb.scanned_eq, List.drop_left, List.take_left,
      Text.splitAll_eq_splitOn, hsplit]
    rfl
  rw [hcommit]
  constructor
  · refine sound_keep ?_ (by simp) ?_
    · simpa using Text.sep_notMem_openPiece lineFeed octets
    · have hopen := Text.length_openPiece_le lineFeed octets
      rw [room] at hfits
      omega
  · exact capacity_keep
  · rw [held_keep, Text.openPiece_append_of_mem _ h]
    rfl
  · exact lines_keep

/-- **A buffer takes the part of an offer that fits.** -/
theorem receive_takes (hb : b.Sound) (offer : List Octet) :
    b.Takes (offer.take b.room) (b.receive offer) := by
  have hfits : (offer.take b.room).length ≤ b.room := by
    rw [List.length_take]
    exact Nat.min_le_left ..
  by_cases h : lineFeed ∈ offer.take b.room
  · exact commit_takes_of_mem hb hfits h
  · exact commit_takes_of_notMem hb hfits h

/-- An offer that fits is taken as a whole. -/
lemma receive_takes_of_fits (hb : b.Sound) (hfits : octets.length ≤ b.room) :
    b.Takes octets (b.receive octets) := by
  have h := receive_takes hb octets
  rwa [List.take_of_length_le hfits] at h

/-- **A chunk is taken as a whole**, whatever its length. -/
theorem feed_takes (hb : b.Sound) (chunk : List Octet) : b.Takes chunk (b.feed chunk) := by
  induction b, chunk using feed.induct with
  | case1 b =>
      rw [feed, if_pos rfl]
      exact .refl hb
  | case2 b chunk hchunk ih =>
      rw [feed, if_neg hchunk]
      have hfirst := receive_takes hb chunk
      have hrest := hfirst.trans (ih hfirst.sound)
      rwa [List.take_append_drop] at hrest

end ReviewStream.LineBuffer
