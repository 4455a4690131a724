import ReviewStream.LineBuffer.Memory
import ReviewStream.Proofs.LineBuffer.Delivery

/-!
# A line buffer in memory never leaves its box

Positions stay in range and loops come to their end, since what a box holds is always a line buffer:
whatever is done to the box is done to the buffer that it shows.

* `LineMemory.Shows`: a box and the line buffer that it holds.
* `LineMemory.exists_commit?`: the search for line feeds comes to its end, and what it makes of the
  content of a box the buffer makes of its own.
* **`LineMemory.Shows.exists_run?`**: nothing that is done to a box fails, and it comes to what is
  done to a line buffer, `LineMemory.counterparts`.
* `LineMemory.Sound`: what the positions and the fragments keep to.
* **`LineMemory.sound_of_uses`**: every box in use.
-/

namespace ReviewStream

open Text (Octet endedPieces openPiece)

/-! ## Positions -/

namespace Cells

variable {cells octets : List Octet} {start stop : Nat}

lemma slice?_eq (hle : start ≤ stop) (hlength : stop ≤ cells.length) :
    slice? cells start stop = some ((cells.take stop).drop start) := if_pos ⟨hle, hlength⟩

lemma write?_eq (h : start + octets.length ≤ cells.length) :
    write? cells start octets
      = some (cells.take start ++ octets ++ cells.drop (start + octets.length)) := if_pos h

lemma sub?_eq (h : start ≤ stop) : sub? stop start = some (stop - start) := if_pos h

/-- Octets that are written behind others are found there. -/
lemma take_written (octets : List Octet) (h : start ≤ cells.length) :
    (cells.take start ++ octets ++ cells.drop (start + octets.length)).take (start + octets.length)
      = cells.take start ++ octets := by
  have hfront : (cells.take start ++ octets).length = start + octets.length := by
    rw [List.length_append, List.length_take_of_le h]
  rw [← hfront, List.take_left]

lemma length_written (h : start + octets.length ≤ cells.length) :
    (cells.take start ++ octets ++ cells.drop (start + octets.length)).length = cells.length := by
  simp only [List.length_append, List.length_take, List.length_drop]
  omega

/-- The first separator is found behind what stands before it. -/
lemma idxOf?_append_cons {sep : Octet} {front : List Octet} (h : sep ∉ front) (back : List Octet) :
    (front ++ sep :: back).idxOf? sep = some front.length := by
  induction front with
  | nil => simp [List.idxOf?_cons]
  | cons x front ih =>
      obtain ⟨hx, hfront⟩ := not_or.mp (List.mem_cons.not.mp h)
      rw [List.cons_append, List.idxOf?_cons, if_neg (by simpa using Ne.symm hx), ih hfront]
      rfl

end Cells

/-! ## What a buffer makes of its content -/

namespace LineBuffer

variable {b : LineBuffer} {content first later : List Octet}

lemma commit_of_notMem (h : lineFeed ∉ content.drop b.scanned) :
    b.commit content = b.keep b.fragments content b.lines := by
  rw [commit, Text.splitAll_eq_splitOn, List.splitOn_eq_singleton h]

lemma commit_of_append (hcontent : content.drop b.scanned = first ++ lineFeed :: later)
    (hfirst : lineFeed ∉ first) :
    b.commit content = b.keep [] (openPiece lineFeed later)
      (b.lines ++ lineText (b.fragments.flatten ++ content.take b.scanned ++ first)
        :: (endedPieces lineFeed later).map lineText) := by
  have hpieces : (first ++ lineFeed :: later).splitOn lineFeed
      = first :: (endedPieces lineFeed later ++ [openPiece lineFeed later]) := by
    rw [List.splitOn_append_cons_self_of_not_mem hfirst, Text.splitOn_eq_ended_append_open]
  obtain ⟨second, rest, hrest⟩ := List.exists_cons_of_ne_nil
    (List.append_ne_nil_of_right_ne_nil (endedPieces lineFeed later)
      (List.cons_ne_nil (openPiece lineFeed later) []))
  rw [commit, hcontent, Text.splitAll_eq_splitOn, hpieces, hrest]
  dsimp only
  rw [← hrest, List.dropLast_concat, List.getLastD_concat, List.map_cons]

/-- Octets that fit are taken in one turn. -/
lemma feed_eq_receive {octets : List Octet} (hb : b.Sound) (h : octets.length ≤ b.room) :
    b.feed octets = b.receive octets := by
  rw [feed]
  split_ifs with hnone
  · -- Nothing new is searched.
    have hclean : lineFeed ∉ b.filled.drop b.scanned := by
      rw [hb.scanned_eq, List.drop_length]
      exact List.not_mem_nil
    rw [hnone, receive, List.take_nil, List.append_nil, commit_of_notMem hclean, keep,
      dif_pos b.room_pos]
    obtain ⟨capacity, filled, scanned, fragments, lines, room_pos⟩ := b
    obtain rfl : scanned = filled.length := hb.scanned_eq
    rfl
  · rw [List.drop_eq_nil_of_le h, feed, if_pos rfl]

end LineBuffer

namespace LineMemory

variable {m : LineMemory} {b : LineBuffer} {chunk first later : List Octet} {start pos turns : Nat}

/-! ## The search for line feeds -/

/-- The octets that have come in. -/
def content (m : LineMemory) : List Octet := m.cells.take m.filled

/-- Positions within what has come in. -/
structure InRange (m : LineMemory) (start pos : Nat) : Prop where
  start_le : start ≤ pos
  pos_le : pos ≤ m.filled
  filled_le : m.filled ≤ m.cells.length

lemma length_content (h : m.filled ≤ m.cells.length) : m.content.length = m.filled :=
  List.length_take_of_le h

lemma slice?_content (h : m.InRange start pos) :
    Cells.slice? m.cells pos m.filled = some (m.content.drop pos) :=
  Cells.slice?_eq h.pos_le h.filled_le

/-- Without a line feed the search is over. -/
lemma cut?_of_notMem (h : m.InRange start pos) (hnone : lineFeed ∉ m.content.drop pos) :
    m.cut? (turns + 1) start pos = some (m, start) := by
  have hsearch : (m.content.drop pos).idxOf? lineFeed = none := List.idxOf?_eq_none_iff.mpr hnone
  simp [cut?, slice?_content h, hsearch]

/-- A box out of which a line has been cut. -/
def withLine (m : LineMemory) (line : List Octet) : LineMemory :=
  { m with fragments := [], lines := m.lines ++ [lineText (m.fragments.flatten ++ line)] }

lemma content_withLine (m : LineMemory) (line : List Octet) :
    (m.withLine line).content = m.content := rfl

lemma assemble?_eq {stop : Nat} (hle : start ≤ stop) (hlength : stop ≤ m.cells.length) :
    m.assemble? start stop = some (m.withLine ((m.cells.take stop).drop start)) := by
  obtain ⟨cells, filled, scanned, fragments, lines⟩ := m
  cases fragments <;> simp [assemble?, Cells.slice?_eq hle hlength, withLine]

/-- Positions behind a line feed are within what has come in, too. -/
lemma InRange.behind (h : m.InRange start pos)
    (hcontent : m.content.drop pos = first ++ lineFeed :: later) :
    m.InRange (pos + first.length + 1) (pos + first.length + 1)
      ∧ m.content.drop (pos + first.length + 1) = later := by
  have hlength := congrArg List.length hcontent
  rw [List.length_drop, length_content h.filled_le, List.length_append, List.length_cons] at hlength
  refine ⟨⟨Nat.le_refl _, by omega, h.filled_le⟩, ?_⟩
  rw [Nat.add_assoc, ← List.drop_drop, hcontent, List.drop_length_add_append]
  rfl

/-- The first line feed ends a line, and the search goes on behind it. -/
lemma cut?_of_append (h : m.InRange start pos)
    (hcontent : m.content.drop pos = first ++ lineFeed :: later) (hfirst : lineFeed ∉ first) :
    m.cut? (turns + 1) start pos
      = (m.withLine ((m.content.take pos).drop start ++ first)).cut? turns
        (pos + first.length + 1) (pos + first.length + 1) := by
  have hsearch : (first ++ lineFeed :: later).idxOf? lineFeed = some first.length :=
    Cells.idxOf?_append_cons hfirst later
  have hlength := congrArg List.length hcontent
  rw [List.length_drop, length_content h.filled_le, List.length_append, List.length_cons] at hlength
  have hline : (m.cells.take (pos + first.length)).drop start
      = (m.content.take pos).drop start ++ first := by
    have hpos : start ≤ (m.content.take pos).length := by
      rw [List.length_take_of_le (by rw [length_content h.filled_le]; exact h.pos_le)]
      exact h.start_le
    have hfront : m.cells.take (pos + first.length) = m.content.take (pos + first.length) := by
      rw [content, List.take_take, Nat.min_eq_left (by omega)]
    rw [hfront, List.take_add, hcontent, List.take_left, List.drop_append_of_le_length hpos]
  have hle := h.start_le
  have hfilled := h.filled_le
  rw [cut?, slice?_content h, hcontent]
  simp only [Option.bind_eq_bind, Option.bind_some, hsearch]
  rw [assemble?_eq (by omega) (by omega), hline]
  rfl

/-- Behind a line feed the search brings the other lines, and comes to its end. -/
lemma exists_cut? (turns : Nat) (h : m.InRange pos pos) (hfragments : m.fragments = [])
    (hturns : m.filled - pos < turns) :
    ∃ start, m.cut? turns pos pos
        = some ({ m with
            lines := m.lines ++ (endedPieces lineFeed (m.content.drop pos)).map lineText }, start)
      ∧ pos ≤ start ∧ start ≤ m.filled
      ∧ m.content.drop start = openPiece lineFeed (m.content.drop pos) := by
  induction turns generalizing m pos with
  | zero => exact absurd hturns (Nat.not_lt_zero _)
  | succ turns ih =>
      by_cases hfeed : lineFeed ∈ m.content.drop pos
      · obtain ⟨first, later, hsplit, hfirst⟩ := List.eq_append_cons_of_mem hfeed
        obtain ⟨hrange, hlater⟩ := h.behind hsplit
        have hless : m.filled - (pos + first.length + 1) < turns := by
          have hpos := hrange.pos_le
          omega
        obtain ⟨start, hcut, hle, hfilled, htail⟩ := ih (m := m.withLine first)
          ⟨hrange.start_le, hrange.pos_le, hrange.filled_le⟩ rfl hless
        have hnothing : (m.content.take pos).drop pos = [] := by simp
        rw [content_withLine, hlater] at hcut htail
        refine ⟨start, ?_, by omega, hfilled, ?_⟩
        · rw [cut?_of_append h hsplit hfirst, hnothing, List.nil_append, hcut, hsplit,
            Text.endedPieces_append_cons hfirst]
          simp [withLine, hfragments]
        · rw [htail, hsplit, Text.openPiece_append_cons]
      · refine ⟨pos, ?_, Nat.le_refl _, h.pos_le, ?_⟩
        · rw [cut?_of_notMem h hfeed, Text.endedPieces_of_notMem hfeed, List.map_nil,
            List.append_nil]
        · rw [Text.openPiece_of_notMem hfeed]

/-- What is behind a position is moved to the front. -/
lemma exists_compact? (h : m.InRange start start) (hpos : 0 < start) :
    ∃ m', m.compact? start = some m' ∧ m'.content = m.content.drop start
      ∧ m'.cells.length = m.cells.length ∧ m'.filled ≤ m'.cells.length
      ∧ m'.fragments = m.fragments ∧ m'.lines = m.lines := by
  have hlength : (m.content.drop start).length = m.filled - start := by
    rw [List.length_drop, length_content h.filled_le]
  have hfits : 0 + (m.content.drop start).length ≤ m.cells.length := by
    have hfilled := h.filled_le
    omega
  let cells := m.cells.take 0 ++ m.content.drop start
    ++ m.cells.drop (0 + (m.content.drop start).length)
  have hsame : cells.length = m.cells.length := Cells.length_written hfits
  have hcontent : cells.take (0 + (m.content.drop start).length) = m.content.drop start :=
    Cells.take_written _ (Nat.zero_le _)
  rw [hlength, Nat.zero_add] at hcontent
  refine ⟨{ m with cells, filled := m.filled - start }, ?_, hcontent, hsame, ?_, rfl, rfl⟩
  · rw [compact?, if_pos hpos, slice?_content h, Option.bind_eq_bind, Option.bind_some,
      Cells.write?_eq hfits, Option.bind_eq_bind, Option.bind_some, Cells.sub?_eq h.pos_le]
    rfl
  · have hfilled := h.filled_le
    dsimp only
    omega

/-! ## What a box shows -/

/-- A box and the line buffer that it holds. -/
structure Shows (m : LineMemory) (b : LineBuffer) : Prop where
  capacity : m.cells.length = b.capacity
  filled_lt : m.filled < m.cells.length
  content : m.content = b.filled
  scanned : m.scanned = b.scanned
  fragments : m.fragments = b.fragments
  lines : m.lines = b.lines

lemma shows_settle (hcapacity : m.cells.length = b.capacity) (hfilled : m.filled ≤ m.cells.length) :
    m.settle.Shows (b.keep m.fragments m.content m.lines) := by
  have hlength := length_content hfilled
  rw [settle, LineBuffer.keep]
  split_ifs with hfull hfits hfits
  · omega
  · refine ⟨hcapacity, ?_, rfl, rfl, ?_, rfl⟩
    · have hroom := b.room_pos
      dsimp only
      omega
    · rw [content, hfull, List.take_length]
  · exact ⟨hcapacity, Nat.lt_of_le_of_ne hfilled hfull, rfl, hlength.symm, rfl, rfl⟩
  · omega

/-- Everything that is done to the content of a box is done to the buffer that it shows. -/
lemma exists_commit? (hcapacity : m.cells.length = b.capacity) (hfilled : m.filled ≤ m.cells.length)
    (hscanned : m.scanned = b.scanned) (hpos : m.scanned ≤ m.filled)
    (hfragments : m.fragments = b.fragments) (hlines : m.lines = b.lines) :
    ∃ m', m.commit? = some m' ∧ m'.Shows (b.commit m.content) := by
  have hrange : m.InRange 0 m.scanned := ⟨Nat.zero_le _, hpos, hfilled⟩
  by_cases hfeed : lineFeed ∈ m.content.drop m.scanned
  · obtain ⟨first, later, hsplit, hfirst⟩ := List.eq_append_cons_of_mem hfeed
    obtain ⟨hbehind, hlater⟩ := hrange.behind hsplit
    have hturns : m.filled - (m.scanned + first.length + 1) < m.filled := by
      have hle := hbehind.pos_le
      omega
    obtain ⟨start, hcut, hle, hstart, htail⟩ :=
      exists_cut? (m := m.withLine (m.content.take m.scanned ++ first)) m.filled
        ⟨hbehind.start_le, hbehind.pos_le, hbehind.filled_le⟩ rfl hturns
    rw [content_withLine, hlater] at hcut htail
    obtain ⟨m', hcompact, hcontent, hlength, hfilled', hfragments', hlines'⟩ :=
      exists_compact? (m := { m.withLine (m.content.take m.scanned ++ first) with
          lines := (m.withLine (m.content.take m.scanned ++ first)).lines
            ++ (endedPieces lineFeed later).map lineText })
        ⟨Nat.le_refl _, hstart, hfilled⟩ (by omega)
    refine ⟨m'.settle, ?_, ?_⟩
    · rw [commit?, cut?_of_append hrange hsplit hfirst, List.drop_zero, hcut]
      simp only [Option.bind_eq_bind, Option.bind_some, hcompact]
      rfl
    · have hshows := shows_settle (b := b) (hlength.trans hcapacity) hfilled'
      rw [hcontent, hfragments', hlines'] at hshows
      rw [LineBuffer.commit_of_append (hscanned ▸ hsplit) hfirst, ← htail, ← hfragments, ← hlines,
        ← hscanned]
      simpa [withLine, content] using hshows
  · refine ⟨m.settle, ?_, ?_⟩
    · simp [commit?, cut?_of_notMem hrange hfeed, compact?]
    · rw [LineBuffer.commit_of_notMem (hscanned ▸ hfeed), ← hfragments, ← hlines]
      exact shows_settle hcapacity hfilled

/-! ## Chunks -/

namespace Shows

lemma length_filled (h : m.Shows b) : b.filled.length = m.filled := by
  rw [← h.content, length_content (Nat.le_of_lt h.filled_lt)]

lemma room_eq (h : m.Shows b) : b.room = m.cells.length - m.filled := by
  rw [LineBuffer.room, h.length_filled, h.capacity]

/-- Octets that are put behind those that have come in, and searched. -/
lemma exists_received (h : m.Shows b) (hb : b.Sound) {octets cells : List Octet} {n : Nat}
    (hlength : octets.length = n) (hfits : m.filled + n ≤ m.cells.length)
    (hcells : cells.length = m.cells.length)
    (hcontent : cells.take (m.filled + n) = m.content ++ octets) :
    ∃ m', { m with cells, filled := m.filled + n }.commit? = some m'
      ∧ m'.Shows (b.receive octets) := by
  have hfilled := h.length_filled
  have hroom : octets.take b.room = octets := by
    refine List.take_of_length_le ?_
    rw [h.room_eq]
    omega
  have hscanned : m.scanned = m.filled := by rw [h.scanned, hb.scanned_eq, hfilled]
  have hreceived : b.receive octets = b.commit (cells.take (m.filled + n)) := by
    rw [LineBuffer.receive, hroom, hcontent, h.content]
  rw [hreceived]
  exact exists_commit? (m := { m with cells, filled := m.filled + n })
    (hcells.trans h.capacity) (by rw [← hcells] at hfits; exact hfits) h.scanned
    (by dsimp only; omega) h.fragments h.lines

/-- One turn takes what fits. -/
lemma exists_feedTurn? (h : m.Shows b) (hb : b.Sound) (chunk : List Octet) :
    ∃ m', m.feedTurn? chunk = some (m', chunk.drop b.room) ∧ m'.Shows (b.receive chunk) := by
  have hlt := h.filled_lt
  have hroom := h.room_eq
  let taken := min (m.cells.length - m.filled) chunk.length
  have hlength : (chunk.take taken).length = taken := by
    rw [List.length_take]
    omega
  have hmin : min b.room chunk.length = min taken chunk.length := by omega
  have htake : chunk.take b.room = chunk.take taken := List.take_eq_take_iff.mpr hmin
  have hdrop : chunk.drop b.room = chunk.drop taken := List.drop_eq_drop_iff.mpr hmin
  have hreceive : b.receive chunk = b.receive (chunk.take taken) := by
    rw [LineBuffer.receive, LineBuffer.receive, htake, ← htake, List.take_take, Nat.min_self]
  have hwrite : m.filled + (chunk.take taken).length ≤ m.cells.length := by
    rw [hlength]
    omega
  have hcontent := Cells.take_written (chunk.take taken) (Nat.le_of_lt hlt)
  have hcells := Cells.length_written hwrite
  have hput := Cells.write?_eq hwrite
  rw [hlength] at hcontent hcells hput
  obtain ⟨m', hcommit, hshows⟩ := h.exists_received hb hlength (by omega) hcells hcontent
  refine ⟨m', ?_, hreceive ▸ hshows⟩
  rw [feedTurn?, Cells.sub?_eq (Nat.le_of_lt hlt)]
  simp only [Option.bind_eq_bind, Option.bind_some]
  rw [hput, Option.bind_some, hcommit, hdrop]
  rfl

/-- Any chunk is taken in no more turns than it has octets, since every turn takes one at least. -/
lemma exists_feedWithin? (h : m.Shows b) (hb : b.Sound) (hturns : chunk.length ≤ turns) :
    ∃ m', m.feedWithin? turns chunk = some m' ∧ m'.Shows (b.feed chunk) := by
  induction turns generalizing m b chunk with
  | zero =>
      obtain rfl := List.length_eq_zero_iff.mp (Nat.le_zero.mp hturns)
      exact ⟨m, rfl, by rwa [LineBuffer.feed, if_pos rfl]⟩
  | succ turns ih =>
      cases chunk with
      | nil => exact ⟨m, rfl, by rwa [LineBuffer.feed, if_pos rfl]⟩
      | cons octet octets =>
          obtain ⟨next, hturn, hnext⟩ := h.exists_feedTurn? hb (octet :: octets)
          have hrest : ((octet :: octets).drop b.room).length ≤ turns := by
            have hroom := b.room_ne_zero
            rw [List.length_drop]
            omega
          obtain ⟨m', hfeed, hshows⟩ :=
            ih hnext (LineBuffer.receive_takes hb (octet :: octets)).sound hrest
          refine ⟨m', ?_, ?_⟩
          · rw [feedWithin?, hturn, Option.bind_eq_bind, Option.bind_some]
            exact hfeed
          · rw [LineBuffer.feed, if_neg (List.cons_ne_nil _ _)]
            exact hshows

/-! ## Reads -/

/-- The free part of a box is offered to a read. -/
lemma slice?_free (h : m.Shows b) :
    Cells.slice? m.cells m.filled m.cells.length = some (m.cells.drop m.filled) := by
  rw [Cells.slice?_eq (Nat.le_of_lt h.filled_lt) (Nat.le_refl _), List.take_length]

lemma free_ne_nil (h : m.Shows b) : m.cells.drop m.filled ≠ [] := by
  have hlt := h.filled_lt
  rw [ne_eq, List.drop_eq_nil_iff]
  omega

/-- What a read leaves in the free part of a box does not touch what has come in. -/
lemma write?_free (h : m.Shows b) (r : Reader) :
    Cells.write? m.cells m.filled (r.left (m.cells.drop m.filled))
      = some (m.content ++ r.left (m.cells.drop m.filled)) := by
  have hlt := h.filled_lt
  have hlength := r.length_left (m.cells.drop m.filled)
  rw [List.length_drop] at hlength
  have hend : m.filled + (r.left (m.cells.drop m.filled)).length = m.cells.length := by omega
  rw [Cells.write?_eq (Nat.le_of_eq hend), hend, List.drop_length, List.append_nil]
  rfl

/-- Whatever the free part of a box holds, the box shows the same buffer. -/
lemma withFree (h : m.Shows b) (r : Reader) :
    Shows { m with cells := m.content ++ r.left (m.cells.drop m.filled) } b := by
  have hlt := h.filled_lt
  have hcontent := length_content (Nat.le_of_lt hlt)
  have hlength : (m.content ++ r.left (m.cells.drop m.filled)).length = m.cells.length := by
    rw [List.length_append, r.length_left, List.length_drop]
    omega
  refine ⟨hlength.trans h.capacity, hlength.symm ▸ hlt, ?_, h.scanned, h.fragments, h.lines⟩
  rw [← h.content]
  exact List.take_left' hcontent

/-- What has been read is taken; a read that fails changes nothing that has come in. -/
lemma exists_readFrom? (h : m.Shows b) (hb : b.Sound) (r : Reader) :
    let left := r.left (m.cells.drop m.filled)
    (r.count? (m.cells.drop m.filled) = none
        ∧ m.readFrom? r = some (none, { m with cells := m.content ++ left }))
      ∨ ∃ n m', r.count? (m.cells.drop m.filled) = some n ∧ n ≤ b.room
        ∧ m.readFrom? r = some (some n, m') ∧ m'.Shows (b.receive (left.take n)) := by
  intro left
  have hlt := h.filled_lt
  have hroom := h.room_eq
  have hcontent := length_content (Nat.le_of_lt hlt)
  have hleft : left.length = m.cells.length - m.filled := by
    rw [r.length_left, List.length_drop]
  cases hcount : r.count? (m.cells.drop m.filled) with
  | none =>
      refine .inl ⟨rfl, ?_⟩
      simp only [readFrom?, h.slice?_free, h.write?_free r, Option.bind_eq_bind, Option.bind_some,
        hcount]
      rfl
  | some n =>
      have hle := r.count_le _ n hcount
      rw [List.length_drop] at hle
      have hlength : (left.take n).length = n := List.length_take_of_le (by omega)
      have hcells : (m.content ++ left).length = m.cells.length := by
        rw [List.length_append]
        omega
      have htaken : (m.content ++ left).take (m.filled + n) = m.content ++ left.take n := by
        rw [← hcontent, List.take_length_add_append]
      obtain ⟨m', hcommit, hshows⟩ :=
        h.exists_received hb hlength (by omega) hcells htaken
      refine .inr ⟨n, m', rfl, hroom ▸ hle, ?_, hshows⟩
      simp only [readFrom?, h.slice?_free, h.write?_free r, Option.bind_eq_bind, Option.bind_some,
        hcount]
      rw [hcommit, Option.map_some]

end Shows

/-! ## What a box keeps to -/

/-- What a box keeps to between two uses. -/
structure Sound (m : LineMemory) : Prop where
  filled_lt : m.filled < m.cells.length
  scanned_eq : m.scanned = m.filled
  content_clean : lineFeed ∉ m.content
  fragments_clean : ∀ f ∈ m.fragments, lineFeed ∉ f
  fragments_full : ∀ f ∈ m.fragments, f.length = m.cells.length

/-- A box keeps to this exactly if the buffer that it shows is sound. -/
lemma Shows.sound_iff (h : m.Shows b) : m.Sound ↔ b.Sound := by
  have hheld : lineFeed ∉ b.held
      ↔ (∀ f ∈ m.fragments, lineFeed ∉ f) ∧ lineFeed ∉ m.content := by
    rw [LineBuffer.held, ← h.content, ← h.fragments]
    simp
  constructor
  · intro hm
    refine ⟨?_, hheld.mpr ⟨hm.fragments_clean, hm.content_clean⟩, ?_⟩
    · rw [← h.scanned, hm.scanned_eq, h.length_filled]
    · rw [← h.fragments, ← h.capacity]
      exact hm.fragments_full
  · intro hb
    obtain ⟨hfragments, hcontent⟩ := hheld.mp hb.clean
    refine ⟨h.filled_lt, ?_, hcontent, hfragments, ?_⟩
    · rw [h.scanned, hb.scanned_eq, h.length_filled]
    · rw [h.fragments, h.capacity]
      exact hb.full

/-- The line buffer that a box holds. -/
def buffer (m : LineMemory) (h : m.filled < m.cells.length) : LineBuffer where
  capacity := m.cells.length
  filled := m.content
  scanned := m.scanned
  fragments := m.fragments
  lines := m.lines
  room_pos := by
    rw [length_content (Nat.le_of_lt h)]
    exact h

lemma shows_buffer (h : m.filled < m.cells.length) : m.Shows (m.buffer h) :=
  ⟨rfl, h, rfl, rfl, rfl, rfl⟩

lemma shows_ofCapacity (capacity : Nat) : (ofCapacity capacity).Shows (.ofCapacity capacity) where
  capacity := List.length_replicate
  filled_lt := by
    rw [ofCapacity, List.length_replicate]
    exact Nat.lt_of_lt_of_le Nat.zero_lt_one (Nat.le_max_right capacity 1)
  content := rfl
  scanned := rfl
  fragments := rfl
  lines := rfl

/-! ## Runs -/

/-- What a read brings. -/
def brought (m : LineMemory) (r : Reader) : List Octet :=
  let free := m.cells.drop m.filled
  (r.left free).take ((r.count? free).getD 0)

/-- What a use does to the line buffer that a box shows: a read is as good as a chunk of what it
brings. -/
def counterpart (m : LineMemory) : Use → Intake.Use
  | .feed chunk => .feed chunk
  | .read r => .feed (m.brought r)
  | .drain => .drain

/-- What some uses do, one after the other. -/
def counterparts (m : LineMemory) : List Use → List Intake.Use
  | [] => []
  | u :: uses => m.counterpart u :: ((m.use? u).map fun (m, _) => m.counterparts uses).getD []

variable {i : Intake}

lemma Shows.exists_use? (h : m.Shows i.buffer) (hi : i.Faithful) (u : Use) :
    ∃ m' lines, m.use? u = some (m', lines) ∧ m'.Shows (i.use (m.counterpart u)).buffer
      ∧ (i.use (m.counterpart u)).drained = i.drained ++ lines := by
  cases u with
  | feed chunk =>
      obtain ⟨m', hfeed, hshows⟩ := h.exists_feedWithin? hi.sound (Nat.le_refl chunk.length)
      have huse : m.use? (.feed chunk) = some (m', []) := congrArg (Option.map _) hfeed
      exact ⟨m', [], huse, hshows, (List.append_nil _).symm⟩
  | read r =>
      rcases h.exists_readFrom? hi.sound r with
        ⟨hcount, hread⟩ | ⟨n, m', hcount, hle, hread, hshows⟩
      · have huse : m.use? (.read r) = some (_, []) := congrArg (Option.map _) hread
        have hbrought : m.brought r = [] := by
          rw [brought, hcount, Option.getD_none, List.take_zero]
        refine ⟨_, [], huse, ?_, (List.append_nil _).symm⟩
        rw [counterpart, hbrought, Intake.use, LineBuffer.feed, if_pos rfl]
        exact h.withFree r
      · have huse : m.use? (.read r) = some (m', []) := congrArg (Option.map _) hread
        have hbrought : m.brought r = (r.left (m.cells.drop m.filled)).take n := by
          rw [brought, hcount, Option.getD_some]
        have hfits : (m.brought r).length ≤ i.buffer.room :=
          hbrought ▸ Nat.le_trans (List.length_take_le _ _) hle
        refine ⟨m', [], huse, ?_, (List.append_nil _).symm⟩
        rw [counterpart, Intake.use, LineBuffer.feed_eq_receive hi.sound hfits, hbrought]
        exact hshows
  | drain =>
      refine ⟨m.drain.2, m.lines, rfl, ?_, congrArg (i.drained ++ ·) h.lines.symm⟩
      exact ⟨h.capacity, h.filled_lt, h.content, h.scanned, h.fragments, rfl⟩

/-- **A box in use is a line buffer in use**: no use fails, and the same lines are handed out. -/
theorem Shows.exists_run? (h : m.Shows i.buffer) (hi : i.Faithful) (uses : List Use) :
    ∃ m' lines, m.run? uses = some (m', lines)
      ∧ m'.Shows ((m.counterparts uses).foldl Intake.use i).buffer
      ∧ ((m.counterparts uses).foldl Intake.use i).drained = i.drained ++ lines := by
  induction uses generalizing m i with
  | nil => exact ⟨m, [], rfl, h, (List.append_nil _).symm⟩
  | cons u uses ih =>
      obtain ⟨next, now, huse, hnext, hdrained⟩ := h.exists_use? hi u
      obtain ⟨m', later, hrun, hshows, hall⟩ := ih hnext (hi.use (m.counterpart u))
      have hcounterparts : m.counterparts (u :: uses)
          = m.counterpart u :: next.counterparts uses := by
        rw [counterparts, huse, Option.map_some, Option.getD_some]
      rw [hcounterparts, List.foldl_cons]
      refine ⟨m', now ++ later, ?_, hshows, ?_⟩
      · rw [run?, huse, Option.bind_eq_bind, Option.bind_some]
        simp [hrun]
      · rw [hall, hdrained, List.append_assoc]

/-- What can be done to a box. -/
structure Works (m : LineMemory) : Prop where
  /-- A turn of the loop that takes a chunk takes one octet at least. -/
  turn : ∀ chunk, chunk ≠ [] → ∃ m' rest, m.feedTurn? chunk = some (m', rest)
    ∧ rest.length < chunk.length ∧ m'.Sound
  /-- The loop comes to its end for every chunk. -/
  feed : ∀ chunk, ∃ m', m.feed? chunk = some m' ∧ m'.Sound
  /-- A read is offered some room, so one that brings nothing has come to the end.  One that fails
  leaves everything as it is, but for what the reader has left in the free part. -/
  read : ∀ r : Reader, ∃ free m', Cells.slice? m.cells m.filled m.cells.length = some free
    ∧ free ≠ [] ∧ m.readFrom? r = some (r.count? free, m') ∧ m'.Sound
    ∧ (r.count? free = some 0 → r.atEnd = true)
    ∧ (r.count? free = none → m' = { m with cells := m.content ++ r.left free }
      ∧ (r.left free = free → m' = m))
  drain : m.drain.2.Sound

lemma Sound.works (hm : m.Sound) : m.Works := by
  have h : m.Shows (m.buffer hm.filled_lt) := shows_buffer hm.filled_lt
  have hb : (m.buffer hm.filled_lt).Sound := h.sound_iff.mp hm
  constructor
  case turn =>
    intro chunk hchunk
    obtain ⟨m', hturn, hshows⟩ := h.exists_feedTurn? hb chunk
    refine ⟨m', _, hturn, ?_, hshows.sound_iff.mpr (LineBuffer.receive_takes hb chunk).sound⟩
    have hroom := (m.buffer hm.filled_lt).room_ne_zero
    have hpos := List.length_pos_iff.mpr hchunk
    rw [List.length_drop]
    omega
  case feed =>
    intro chunk
    obtain ⟨m', hfeed, hshows⟩ := h.exists_feedWithin? hb (Nat.le_refl chunk.length)
    exact ⟨m', hfeed, hshows.sound_iff.mpr (LineBuffer.feed_takes hb chunk).sound⟩
  case read =>
    intro r
    have hfree := h.free_ne_nil
    refine ⟨m.cells.drop m.filled, ?_⟩
    rcases h.exists_readFrom? hb r with ⟨hcount, hread⟩ | ⟨n, m', hcount, -, hread, hshows⟩
    · refine ⟨_, h.slice?_free, hfree, hcount ▸ hread, (h.withFree r).sound_iff.mpr hb, ?_,
        fun _ => ⟨rfl, fun hsame => ?_⟩⟩
      · rw [hcount]
        exact nofun
      · rw [hsame, content, List.take_append_drop]
    · refine ⟨m', h.slice?_free, hfree, hcount ▸ hread,
        hshows.sound_iff.mpr (LineBuffer.receive_takes hb _).sound, r.atEnd_of_zero _ hfree, ?_⟩
      rw [hcount]
      exact nofun
  case drain => exact ⟨hm.filled_lt, hm.scanned_eq, hm.content_clean, hm.fragments_clean,
    hm.fragments_full⟩

/-- **Whatever is done to a box, positions stay in range and loops come to their end.**  After any
feeds, reads and drains the box shows the line buffer that is used like it, and the same lines have
been handed out.  It is not full, all that has come in has been searched, there is no line feed in
it or in a fragment, and every fragment is as long as the box.  Hence a turn of the loop takes one
octet at least, the loop ends for every chunk, a read that brings nothing has come to the end, and
one that fails leaves everything as it is. -/
theorem sound_of_uses (capacity : Nat) :
    (∀ uses, ∃ m lines, (ofCapacity capacity).run? uses = some (m, lines) ∧ m.Sound
        ∧ let i := Intake.ofUses capacity ((ofCapacity capacity).counterparts uses)
          m.Shows i.buffer ∧ lines = i.drained)
      ∧ ∀ m : LineMemory, m.Sound → m.Works := by
  refine ⟨fun uses => ?_, fun m hm => hm.works⟩
  obtain ⟨m, lines, hrun, hshows, hdrained⟩ :=
    Shows.exists_run? (i := ⟨[], [], .ofCapacity capacity⟩) (shows_ofCapacity capacity)
      (Intake.faithful_ofCapacity capacity) uses
  exact ⟨m, lines, hrun, hshows.sound_iff.mpr (Intake.faithful_ofUses capacity _).sound, hshows,
    hdrained.symm⟩

/-- A box of two cells.  A line fills it once and is ended by a read; a read that fails has left a
line feed in the free part, which counts for nothing. -/
theorem sound_of_uses_of_broken_read :
    let feeds (part : List Octet) : List Octet := part.map fun _ => lineFeed
    let reader : Reader := ⟨feeds, fun part => some (min 1 part.length), false,
      fun _ => List.length_map _, fun _ _ h => by cases h; exact Nat.min_le_right .., by
        rintro (_ | ⟨b, part⟩) hpart hzero
        · exact absurd rfl hpart
        · cases Option.some.inj hzero⟩
    let broken : Reader := ⟨feeds, fun _ => none, false, fun _ => List.length_map _, nofun, nofun⟩
    let uses : List Use :=
      [.feed [97, 98, 99], .read reader, .feed [100], .read broken, .drain]
    ∃ m, (ofCapacity 2).run? uses = some (m, ["abc"]) ∧ m.cells = [100, lineFeed] ∧ m.filled = 1
      ∧ m.Sound ∧ (∃ m', m.feed? [101, 102, 103] = some m' ∧ m'.Sound)
      ∧ m.readFrom? broken = some (none, m) := by
  intro feeds reader broken uses
  obtain ⟨m, lines, hrun, hsound, -⟩ := (sound_of_uses 2).1 uses
  have hworks : m.Works := (sound_of_uses 2).2 m hsound
  have hend : ((ofCapacity 2).run? uses).map (fun r => (r.2, r.1.cells, r.1.filled))
      = some (["abc"], [100, lineFeed], 1) := by decide +kernel
  rw [hrun, Option.map_some, Option.some.injEq, Prod.mk.injEq, Prod.mk.injEq] at hend
  obtain ⟨rfl, hcells, hfilled⟩ := hend
  refine ⟨m, hrun, hcells, hfilled, hsound, hworks.feed _, ?_⟩
  obtain ⟨free, m', hfree, -, hread, -, -, hfailed⟩ := hworks.read broken
  rw [hcells, hfilled] at hfree
  cases hfree
  rw [hread, (hfailed rfl).2 rfl]

end LineMemory

end ReviewStream
