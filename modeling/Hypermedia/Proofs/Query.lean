import Mathlib.Data.List.Basic
import Hypermedia.Proofs.Header
import Hypermedia.Query

/-!
# Queries are read back

* `Query.isUrlText_render` says that a query is written with characters that may stand in a URL.
* `Query.decodeComponent_encodeComponent` reads one name or value back, by
  `Percent.decode_encodeByte` for the characters that do not stand for themselves.
* `Query.pairs_render` reads a whole query back.
* `Query.pieces` are the parameters of a query as they are written; `Query.pairs_eq` says that each
  is read on its own.
-/

namespace Hypermedia

/-! ## Percent-encoding -/

namespace Percent

/-- A byte that is no percent sign stands for itself. -/
theorem decode_cons_of_ne {b : UInt8} (h : b ≠ 0x25) (rest : Bytes) :
    decode (b :: rest) = b :: decode rest := by
  rw [decode.eq_def]
  exact if_neg h

/-- The value of a digit that was written. -/
theorem hexValue?_hexUpper {n : Nat} (h : n < 16) :
    hexValue? (UInt8.ofNat (hexUpper n).toNat) = some n := by
  have hdigit : ∀ n < 16, hexValue? (UInt8.ofNat (hexUpper n).toNat) = some n := by decide
  exact hdigit n h

/-- The bytes that a byte is written with. -/
theorem encode_encodeByte (b : UInt8) :
    Utf8.encode (encodeByte b) = [0x25, UInt8.ofNat (hexUpper (b.toNat / 16)).toNat,
      UInt8.ofNat (hexUpper (b.toNat % 16)).toNat] := by
  have hall := all_of_all_isUrlChar (fun _ => isPrintableChar_of_isUrlChar) (all_encodeByte b)
  unfold encodeByte at hall ⊢
  simp only [List.all_cons, List.all_nil, Bool.and_true, Bool.and_eq_true,
    isPrintableChar_iff] at hall
  unfold Utf8.encode
  rw [List.flatMap_cons, List.flatMap_cons, List.flatMap_cons, List.flatMap_nil,
    Utf8.encodeChar_of_lt (by omega), Utf8.encodeChar_of_lt (by omega),
    Utf8.encodeChar_of_lt (by omega)]
  rfl

/-- A byte is read back, whatever follows. -/
theorem decode_encodeByte (b : UInt8) (rest : Bytes) :
    decode (Utf8.encode (encodeByte b) ++ rest) = b :: decode rest := by
  have hlt := b.toNat_lt
  have hhigh := hexValue?_hexUpper (n := b.toNat / 16) (by omega)
  have hlow := hexValue?_hexUpper (n := b.toNat % 16) (Nat.mod_lt _ (by decide))
  have hnumber : b.toNat / 16 * 16 + b.toNat % 16 = b.toNat := by omega
  rw [encode_encodeByte, List.cons_append, List.cons_append, List.cons_append, List.nil_append,
    decode, if_pos rfl]
  simp only [hhigh, hlow, hnumber, UInt8.ofNat_toNat]

end Percent

namespace Query

/-! ## Names and values -/

theorem isUrlChar_of_isPlain {c : Char} (h : isPlain c = true) : isUrlChar c = true := by
  simp only [isPlain, Bool.or_eq_true, decide_eq_true_eq] at h
  rcases h with (((halphanum | rfl) | rfl) | rfl) | rfl
  · exact isUrlChar_of_isAlphanum halphanum
  all_goals rfl

theorem all_encodeComponent (text : String) :
    (encodeComponent text).all isUrlChar = true := by
  unfold encodeComponent
  rw [List.all_flatMap, List.all_eq_true]
  intro c _
  unfold encodeChar
  split_ifs
  · rfl
  · exact Percent.all_encodeChar (fun _ => id) isUrlChar_of_isPlain

/-- A query that is written from pairs may stand in a URL. -/
theorem isUrlText_render (pairs : List (String × String)) : isUrlText (render pairs) = true := by
  unfold render
  rw [isUrlText_ofList]
  refine all_intercalate (by decide) fun piece hpiece => ?_
  obtain ⟨pair, -, rfl⟩ := List.mem_map.mp hpiece
  unfold encodePair
  rw [List.all_append, List.all_cons, all_encodeComponent, all_encodeComponent]
  rfl

/-- The byte that a byte of a name or value stands for: a plus sign for a blank. -/
def unplus (b : UInt8) : UInt8 :=
  if b = 0x2B then 0x20 else b

/-- The bytes of percent-encoded text hold no plus sign. -/
theorem map_unplus_encodeByte (b : UInt8) :
    (Utf8.encode (Percent.encodeByte b)).map unplus = Utf8.encode (Percent.encodeByte b) := by
  have hdigit : ∀ n < 16, unplus (UInt8.ofNat (Percent.hexUpper n).toNat) =
      UInt8.ofNat (Percent.hexUpper n).toNat := by decide
  have hlt := b.toNat_lt
  rw [Percent.encode_encodeByte, List.map_cons, List.map_cons, List.map_cons, List.map_nil,
    hdigit _ (by omega), hdigit _ (Nat.mod_lt _ (by decide))]
  rfl

/-- Percent-encoded bytes are read back, whatever follows. -/
theorem decode_encodeBytes (bytes rest : Bytes) :
    Percent.decode ((Utf8.encode (Percent.encodeBytes bytes)).map unplus ++ rest) =
      bytes ++ Percent.decode rest := by
  induction bytes with
  | nil => rfl
  | cons b more ih =>
      have hcons : Utf8.encode (Percent.encodeBytes (b :: more)) =
          Utf8.encode (Percent.encodeByte b) ++ Utf8.encode (Percent.encodeBytes more) :=
        List.flatMap_append
      rw [hcons, List.map_append, map_unplus_encodeByte, List.append_assoc,
        Percent.decode_encodeByte, ih, List.cons_append]

/-- One character of a name or value is read back as its bytes, whatever follows. -/
theorem decode_encodeChar (c : Char) (rest : Bytes) :
    Percent.decode ((Utf8.encode (encodeChar c)).map unplus ++ rest) =
      String.utf8EncodeChar c ++ Percent.decode rest := by
  unfold encodeChar Percent.encodeChar
  split_ifs with hblank hplain
  · subst hblank
    exact Percent.decode_cons_of_ne (by decide) rest
  · have hbounds := isPrintableChar_iff.mp
      (isPrintableChar_of_isUrlChar (isUrlChar_of_isPlain hplain))
    have hbyte : Utf8.encode [c] = [UInt8.ofNat c.toNat] :=
      (List.append_nil _).trans (Utf8.encodeChar_of_lt (by omega))
    have hne : ∀ sign : Char, isPlain sign = false → sign.toNat < 0x80 →
        UInt8.ofNat c.toNat ≠ UInt8.ofNat sign.toNat := by
      intro sign hsign hsmall heq
      have hnumber := congrArg UInt8.toNat heq
      rw [UInt8.toNat_ofNat', UInt8.toNat_ofNat', Nat.mod_eq_of_lt (by omega),
        Nat.mod_eq_of_lt (by omega)] at hnumber
      rw [Char.toNat_inj.mp hnumber, hsign] at hplain
      cases hplain
    have hunplus : unplus (UInt8.ofNat c.toNat) = UInt8.ofNat c.toNat :=
      if_neg (hne '+' (by decide) (by decide))
    rw [hbyte, List.map_singleton, hunplus, Utf8.encodeChar_of_lt (by omega)]
    exact Percent.decode_cons_of_ne (hne '%' (by decide) (by decide)) rest
  · exact decode_encodeBytes _ rest

/-- A name or value is read back. -/
theorem decodeComponent_encodeComponent (text : String) :
    decodeComponent (Utf8.encode (encodeComponent text)) = text := by
  have hdecode : ∀ s : List Char,
      Percent.decode ((Utf8.encode (s.flatMap encodeChar)).map unplus) = Utf8.encode s := by
    intro s
    induction s with
    | nil => rfl
    | cons c rest ih =>
        have hcons : Utf8.encode ((c :: rest).flatMap encodeChar) =
            Utf8.encode (encodeChar c) ++ Utf8.encode (rest.flatMap encodeChar) :=
          List.flatMap_append
        rw [hcons, List.map_append, decode_encodeChar, ih]
        rfl
  have hbytes : decodeComponent (Utf8.encode (encodeComponent text)) =
      .ofList (Utf8.decodeLossy (Utf8.encode text.toList)) :=
    congrArg (fun bytes => String.ofList (Utf8.decodeLossy bytes)) (hdecode text.toList)
  rw [hbytes, Utf8.decodeLossy_encode, String.ofList_toList]

/-! ## Parameters -/

/-- The parameters of a query as they are written. -/
def pieces (query : String) : List (List Char) :=
  Text.splitOn '&' query.toList

/-- The name that a written parameter has. -/
def nameOf (piece : List Char) : String :=
  decodeComponent (Utf8.encode (Text.cutAt '=' piece).1)

/-- The value of a parameter as it is written, if it has one. -/
def writtenValue? (piece : List Char) : Option (List Char) :=
  (Text.cutAt '=' piece).2

/-- A parameter is read by its characters. -/
theorem pair_encode (piece : List Char) :
    pair (Utf8.encode piece) =
      (nameOf piece, decodeComponent (((writtenValue? piece).map Utf8.encode).getD [])) := by
  have hcut := Utf8.cutAt_encode (show '='.toNat < 0x80 by decide) piece
  unfold pair
  rw [show (0x3D : UInt8) = UInt8.ofNat '='.toNat from rfl, hcut]
  rfl

/-- Each parameter of a query is read on its own. -/
theorem pairs_eq (query : String) :
    pairs query =
      ((pieces query).filter (!·.isEmpty)).map fun piece => pair (Utf8.encode piece) := by
  have hsplit := Utf8.splitOn_encode (show '&'.toNat < 0x80 by decide) query.toList
  have hempty : ∀ piece : List Char, (Utf8.encode piece).isEmpty = piece.isEmpty := by
    intro piece
    cases piece with
    | nil => rfl
    | cons c rest =>
        obtain ⟨b, more, hbytes⟩ := List.exists_cons_of_ne_nil (Utf8.encodeChar_ne_nil c)
        unfold Utf8.encode
        rw [List.flatMap_cons, hbytes]
        rfl
  unfold pairs Bytes.ofString pieces
  rw [show (0x26 : UInt8) = UInt8.ofNat '&'.toNat from rfl, hsplit, List.filter_map, List.map_map]
  simp only [Function.comp_def, hempty]

/-- A written name or value has no sign that ends it. -/
theorem not_mem_encodeComponent {sign : Char} (hplain : isPlain sign = false)
    (hsigns : sign ≠ '+' ∧ sign ≠ '%') (hhex : ∀ n < 16, Percent.hexUpper n ≠ sign)
    (text : String) : sign ∉ encodeComponent text := by
  intro hmem
  obtain ⟨c, -, hc⟩ := List.mem_flatMap.mp hmem
  unfold encodeChar Percent.encodeChar Percent.encodeBytes at hc
  split_ifs at hc with hblank hkept
  · exact hsigns.1 (List.mem_singleton.mp hc)
  · rw [← List.mem_singleton.mp hc, hplain] at hkept
    cases hkept
  · obtain ⟨b, -, hb⟩ := List.mem_flatMap.mp hc
    have hlt := b.toNat_lt
    unfold Percent.encodeByte at hb
    simp only [List.mem_cons, List.not_mem_nil, or_false] at hb
    rcases hb with hpercent | hhigh | hlow
    · exact hsigns.2 hpercent
    · exact hhex _ (by omega) hhigh.symm
    · exact hhex _ (Nat.mod_lt _ (by decide)) hlow.symm

/-- A written pair is read back. -/
theorem pair_encodePair (p : String × String) : pair (Utf8.encode (encodePair p)) = p := by
  have hname : '=' ∉ encodeComponent p.1 :=
    not_mem_encodeComponent (by decide) (by decide) (by decide) p.1
  have hcut : Text.cutAt '=' (encodePair p) =
      (encodeComponent p.1, some (encodeComponent p.2)) := by
    unfold encodePair
    rw [Text.cutAt_append_of_not_mem hname, Text.cutAt, if_pos rfl, List.append_nil]
  rw [pair_encode]
  unfold nameOf writtenValue?
  rw [hcut]
  simp only [Option.map_some, Option.getD_some, decodeComponent_encodeComponent]

/-- **A query is read back.** -/
theorem pairs_render (ps : List (String × String)) : pairs (render ps) = ps := by
  have hand : ∀ piece ∈ ps.map encodePair, '&' ∉ piece := by
    intro piece hpiece hmem
    obtain ⟨p, -, rfl⟩ := List.mem_map.mp hpiece
    have hnot := not_mem_encodeComponent (show isPlain '&' = false by decide) (by decide)
      (by decide)
    rcases List.mem_append.mp hmem with hname | hvalue
    · exact hnot p.1 hname
    · rcases List.mem_cons.mp hvalue with heq | hvalue
      · exact absurd heq (by decide)
      · exact hnot p.2 hvalue
  have hfilter : (ps.map encodePair).filter (!·.isEmpty) = ps.map encodePair := by
    rw [List.filter_eq_self]
    intro piece hpiece
    obtain ⟨p, -, rfl⟩ := List.mem_map.mp hpiece
    simp [encodePair]
  cases ps with
  | nil => rfl
  | cons p more =>
      rw [pairs_eq]
      unfold pieces render
      rw [String.toList_ofList, Text.splitOn_intercalate (by simp) hand, hfilter, List.map_map]
      simp only [Function.comp_def, pair_encodePair, List.map_id']

end Query

end Hypermedia
