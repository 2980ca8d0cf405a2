import OpenshiftAcme.Json.Scanner

/-!
This module contains the part of Go's `encoding/json` that writes text, as `json.Marshal` runs it
(with `escapeHTML` set): string literals, base-10 integers and struct objects, and the scanner of
`OpenshiftAcme.Json.Scanner` read back over each. `Encodes text v d` says that the scanner reads
`v` from `text`, with fuel `d` or more, whatever follows the text up to a separator; the lemmas
give it for the literals the encoder writes, and build it for an object from its members.
-/

namespace OpenshiftAcme.Json

def escapeChar (c : Char) : List Char :=
  if c = '"' ∨ c = '\\' then ['\\', c]
  else if c = '\n' then ['\\', 'n']
  else if c = '\r' then ['\\', 'r']
  else if c = '\t' then ['\\', 't']
  else if c.toNat < 0x20 ∨ c = '<' ∨ c = '>' ∨ c = '&' then
    ['\\', 'u', '0', '0', hexDigit (c.toNat / 16), hexDigit (c.toNat % 16)]
  else if c = '\u2028' ∨ c = '\u2029' then ['\\', 'u', '2', '0', '2', hexDigit (c.toNat % 16)]
  else [c]

def quoteString (s : List Char) : List Char :=
  '"' :: s.flatMap escapeChar ++ ['"']

def formatInt (n : Int) : List Char :=
  if n < 0 then '-' :: Nat.toDigits 10 n.natAbs else Nat.toDigits 10 n.natAbs

def encodeFields : Char → List (List Char × List Char) → List Char
  | next, [] => if next = '{' then ['{', '}'] else ['}']
  | next, (name, value) :: fields => next :: quoteString name ++ ':' :: value ++ encodeFields ',' fields

def decimalValue (ds : List Char) : Nat :=
  ds.foldl (fun x c => x * 10 + (c.toNat - 48)) 0

/-! ## The scanner over the encoder's strings -/

theorem charLe_iff (a b : Char) : a ≤ b ↔ a.toNat ≤ b.toNat :=
  Iff.rfl

theorem isDigit_iff (c : Char) : isDigit c = true ↔ 48 ≤ c.toNat ∧ c.toNat ≤ 57 := by
  simp [isDigit, charLe_iff]

theorem hexDigit_spec : ∀ d < 16, isHex (hexDigit d) = true ∧ hexVal (hexDigit d) = d := by
  decide

theorem scanStr_hexEscape (a b c d : Char) (cs : List Char) (ha : isHex a = true)
    (hb : isHex b = true) (hc : isHex c = true) (hd : isHex d = true)
    (hr : isSurrogate (((hexVal a * 16 + hexVal b) * 16 + hexVal c) * 16 + hexVal d) = false) :
    scanStr .body none ('\\' :: 'u' :: a :: b :: c :: d :: cs) =
      emit [Char.ofNat (((hexVal a * 16 + hexVal b) * 16 + hexVal c) * 16 + hexVal d)]
        (scanStr .body none cs) := by
  simp [scanStr, ha, hb, hc, hd, decodeU, hr]

theorem scanStr_escapeChar (c : Char) (cs : List Char) :
    scanStr .body none (escapeChar c ++ cs) = emit [c] (scanStr .body none cs) := by
  unfold escapeChar
  split_ifs with h1 h2 h3 h4 h5 h6
  · rcases h1 with rfl | rfl <;> rfl
  · subst h2; rfl
  · subst h3; rfl
  · subst h4; rfl
  · have hlt : c.toNat < 256 := by rcases h5 with h | rfl | rfl | rfl <;> first | omega | decide
    obtain ⟨hx1, hv1⟩ := hexDigit_spec (c.toNat / 16) (by omega)
    obtain ⟨hx2, hv2⟩ := hexDigit_spec (c.toNat % 16) (by omega)
    have hr : ((hexVal '0' * 16 + hexVal '0') * 16 + hexVal (hexDigit (c.toNat / 16))) * 16 +
        hexVal (hexDigit (c.toNat % 16)) = c.toNat := by
      rw [hv1, hv2, show hexVal '0' = 0 from rfl]
      omega
    simp only [List.cons_append, List.nil_append]
    rw [scanStr_hexEscape '0' '0' _ _ cs rfl rfl hx1 hx2 (by rw [hr, isSurrogate]; simp; omega), hr,
      Char.ofNat_toNat]
  · have hc : c.toNat = 0x2028 ∨ c.toNat = 0x2029 := by rcases h6 with rfl | rfl <;> decide
    obtain ⟨hx, hv⟩ := hexDigit_spec (c.toNat % 16) (by omega)
    have hr : ((hexVal '2' * 16 + hexVal '0') * 16 + hexVal '2') * 16 +
        hexVal (hexDigit (c.toNat % 16)) = c.toNat := by
      rw [hv, show hexVal '2' = 2 from rfl, show hexVal '0' = 0 from rfl]
      omega
    simp only [List.cons_append, List.nil_append]
    rw [scanStr_hexEscape '2' '0' '2' _ cs rfl rfl rfl hx (by rw [hr, isSurrogate]; simp; omega), hr,
      Char.ofNat_toNat]
  · have hq : c ≠ '"' := fun h => h1 (.inl h)
    have hb : c ≠ '\\' := fun h => h1 (.inr h)
    have hl : ¬ c.toNat < 0x20 := fun h => h5 (.inl h)
    simp [scanStr, hq, hb, hl, flushPending]

theorem scanString_escape (s rest : List Char) :
    scanString (s.flatMap escapeChar ++ '"' :: rest) = .ok (s, rest) := by
  induction s with
  | nil => rfl
  | cons c s ih =>
    simp only [scanString] at ih ⊢
    rw [List.flatMap_cons, List.append_assoc, scanStr_escapeChar, ih]
    rfl

/-! ## Base-10 integers -/

theorem digitChar_toNat : ∀ d < 10, (Nat.digitChar d).toNat = 48 + d := by
  decide

theorem decimalValue_append_digit (ds : List Char) (c : Char) :
    decimalValue (ds ++ [c]) = decimalValue ds * 10 + (c.toNat - 48) := by
  simp [decimalValue, List.foldl_append]

theorem toDigitsCore_succ (fuel n : Nat) (ds : List Char) :
    Nat.toDigitsCore 10 (fuel + 1) n ds =
      if n / 10 = 0 then Nat.digitChar (n % 10) :: ds
      else Nat.toDigitsCore 10 fuel (n / 10) (Nat.digitChar (n % 10) :: ds) :=
  rfl

theorem toDigitsCore_spec (fuel : Nat) :
    ∀ n ds, n < fuel → ∃ L, Nat.toDigitsCore 10 fuel n ds = L ++ ds ∧ L ≠ [] ∧
      (∀ c ∈ L, isDigit c = true) ∧ decimalValue L = n ∧ (n ≠ 0 → L.head? ≠ some '0') := by
  induction fuel with
  | zero => intro n _ h; omega
  | succ f ih =>
    intro n ds hn
    have hd := digitChar_toNat (n % 10) (Nat.mod_lt _ (by omega))
    have hdig : isDigit (Nat.digitChar (n % 10)) = true := (isDigit_iff _).2 (by rw [hd]; omega)
    by_cases h0 : n / 10 = 0
    · refine ⟨[Nat.digitChar (n % 10)], by simp [toDigitsCore_succ, h0], by simp, by simpa, ?_, ?_⟩
      · simp [decimalValue, hd]; omega
      · intro hn0 heq
        have := congrArg Char.toNat (Option.some.inj heq)
        simp [hd] at this; omega
    · obtain ⟨L, hL, hne, hdigits, hval, hhead⟩ :=
        ih (n / 10) (Nat.digitChar (n % 10) :: ds) (by omega)
      refine ⟨L ++ [Nat.digitChar (n % 10)], by simp [toDigitsCore_succ, h0, hL], by simp, ?_, ?_, ?_⟩
      · intro c hc
        rcases List.mem_append.1 hc with hc | hc
        exacts [hdigits c hc, (List.mem_singleton.1 hc) ▸ hdig]
      · rw [decimalValue_append_digit, hval, hd]; omega
      · obtain ⟨c, L', rfl⟩ := List.exists_cons_of_ne_nil hne
        exact fun _ => by simpa using hhead h0

theorem toDigits_spec (n : Nat) :
    Nat.toDigits 10 n ≠ [] ∧ (∀ c ∈ Nat.toDigits 10 n, isDigit c = true) ∧
      decimalValue (Nat.toDigits 10 n) = n ∧ (n ≠ 0 → (Nat.toDigits 10 n).head? ≠ some '0') := by
  obtain ⟨L, hL, h⟩ := toDigitsCore_spec (n + 1) n [] (by omega)
  simp only [List.append_nil] at hL
  rw [show Nat.toDigits 10 n = Nat.toDigitsCore 10 (n + 1) n [] from rfl, hL]
  exact h

/-! ## Text the encoder copies -/

theorem escapeChar_of_isDigit {c : Char} (h : isDigit c = true) : escapeChar c = [c] := by
  have hc := (isDigit_iff c).1 h
  have digits : ∀ n < 58, 48 ≤ n → escapeChar (Char.ofNat n) = [Char.ofNat n] := by decide
  rw [← Char.ofNat_toNat c]
  exact digits _ (by omega) hc.1

theorem flatMap_escapeChar_of_plain {s : List Char} (h : ∀ c ∈ s, escapeChar c = [c]) :
    s.flatMap escapeChar = s := by
  induction s with
  | nil => rfl
  | cons c cs ih =>
    rw [List.flatMap_cons, h c (List.mem_cons_self _ _),
      ih fun c' hc' => h c' (List.mem_cons_of_mem _ hc'), List.singleton_append]

theorem length_encodeFields (next : Char) (fields : List (List Char × List Char)) :
    4 * fields.length + 1 ≤ (encodeFields next fields).length := by
  induction fields generalizing next with
  | nil => unfold encodeFields; split <;> simp
  | cons f fs ih =>
    have := ih ','
    simp only [encodeFields, quoteString, List.length_cons, List.length_append, List.length_nil]
    omega

/-! ## Values the encoder writes -/

def Delimited (rest : List Char) : Prop :=
  ∀ c ∈ rest.head?, c = ',' ∨ c = '}' ∨ c = ']'

def Encodes (text : List Char) (v : Value) (d : Nat) : Prop :=
  (∀ c ∈ text.head?, isSpace c = false) ∧
    ∀ n rest, Delimited rest → parseValue (n + d) (text ++ rest) = .ok (v, rest)

theorem Encodes.mono {text : List Char} {v : Value} {d : Nat} (h : Encodes text v d) (k : Nat) :
    Encodes text v (d + k) :=
  ⟨h.1, fun n rest hr => by rw [← Nat.add_assoc, Nat.add_right_comm]; exact h.2 (n + k) rest hr⟩

theorem parseValue_succ_cons (n : Nat) (c : Char) (cs : List Char) (hc : isSpace c = false) :
    parseValue (n + 1) (c :: cs) =
      if c = '{' then
        match cs.dropWhile isSpace with
        | '}' :: rest => .ok (.object [], rest)
        | cs => (parseMembers n cs).map fun r => (.object r.1, r.2)
      else if c = '[' then
        match cs.dropWhile isSpace with
        | ']' :: rest => .ok (.array [], rest)
        | cs => (parseElements n cs).map fun r => (.array r.1, r.2)
      else if c = '"' then (scanString cs).map fun r => (.string r.1, r.2)
      else if c = '-' ∨ isDigit c then (scanNumber (c :: cs)).map fun r => (.number r.1, r.2)
      else if c = 't' then (expectLiteral "true" ['r', 'u', 'e'] cs).map fun r => (.bool true, r)
      else if c = 'f' then
        (expectLiteral "false" ['a', 'l', 's', 'e'] cs).map fun r => (.bool false, r)
      else if c = 'n' then (expectLiteral "null" ['u', 'l', 'l'] cs).map fun r => (.null, r)
      else .error (invalidChar c "looking for beginning of value") := by
  rw [parseValue, List.dropWhile_cons_of_neg (by simp [hc])] <;> rfl

theorem encodes_null : Encodes ['n', 'u', 'l', 'l'] .null 1 :=
  ⟨by decide, fun n rest _ => by
    rw [List.cons_append, parseValue_succ_cons n 'n' _ rfl]
    rfl⟩

theorem encodes_quoteString (s : List Char) : Encodes (quoteString s) (.string s) 1 := by
  refine ⟨fun c hc => by simp [quoteString] at hc; subst hc; rfl, fun n rest _ => ?_⟩
  simp only [quoteString, List.cons_append, List.append_assoc, List.singleton_append]
  rw [parseValue_succ_cons n '"' _ rfl]
  simp [scanString_escape, Except.map]

theorem delimited_not_digit {rest : List Char} (h : Delimited rest) :
    ∀ c ∈ rest.head?, isDigit c = false ∧ c ≠ '.' ∧ c ≠ 'e' ∧ c ≠ 'E' := by
  intro c hc
  rcases h c hc with rfl | rfl | rfl <;> decide

theorem scanExponent_delimited (acc : List Char) {rest : List Char} (h : Delimited rest) :
    scanExponent acc rest = .ok (acc, rest) := by
  cases rest with
  | nil => rfl
  | cons c cs =>
    obtain ⟨-, -, he, hE⟩ := delimited_not_digit h c rfl
    simp [scanExponent, he, hE]

theorem scanFraction_delimited (acc : List Char) {rest : List Char} (h : Delimited rest) :
    scanFraction acc rest = .ok (acc, rest) := by
  cases rest with
  | nil => rfl
  | cons c cs =>
    obtain ⟨-, hdot, -, -⟩ := delimited_not_digit h c rfl
    simp [scanFraction, hdot, scanExponent_delimited acc h]

theorem isSpace_of_isDigit {c : Char} (hd : isDigit c = true) : isSpace c = false := by
  cases h : isSpace c
  · rfl
  · simp only [isSpace, Bool.or_eq_true, decide_eq_true_eq] at h
    rcases h with ((rfl | rfl) | rfl) | rfl <;> revert hd <;> decide

theorem scanUnsigned_toDigits (sign : List Char) (n : Nat) {rest : List Char} (h : Delimited rest) :
    scanUnsigned sign (Nat.toDigits 10 n ++ rest) = .ok (sign ++ Nat.toDigits 10 n, rest) := by
  obtain ⟨hne, hdig, -, hhead⟩ := toDigits_spec n
  obtain ⟨d, ds, hds⟩ := List.exists_cons_of_ne_nil hne
  have hdigits : ∀ c ∈ ds, isDigit c = true := fun c hc => hdig c (by simp [hds, hc])
  have hrest : ∀ c ∈ rest.head?, isDigit c = false := fun c hc => (delimited_not_digit h c hc).1
  rw [hds]
  by_cases hd0 : d = '0'
  · subst hd0
    have hn : n = 0 := by
      by_contra hn
      exact hhead hn (by simp [hds])
    subst hn
    have h0 : Nat.toDigits 10 0 = ['0'] := rfl
    rw [h0, List.cons.injEq] at hds
    obtain ⟨-, rfl⟩ := hds
    simp [scanUnsigned, scanFraction_delimited _ h]
  · have htake : (ds ++ rest).takeWhile isDigit = ds := by
      rw [List.takeWhile_append_of_pos hdigits]
      cases rest with
      | nil => simp
      | cons c cs => simp [hrest c rfl]
    have hdrop : (ds ++ rest).dropWhile isDigit = rest := by
      rw [List.dropWhile_append_of_pos hdigits]
      cases rest with
      | nil => rfl
      | cons c cs => simp [hrest c rfl]
    simp [scanUnsigned, hd0, hdig d (by simp [hds]), htake, hdrop, scanFraction_delimited _ h]

theorem encodes_formatInt (n : Int) : Encodes (formatInt n) (.number (formatInt n)) 1 := by
  obtain ⟨hne, hdig, -, -⟩ := toDigits_spec n.natAbs
  obtain ⟨d, ds, hds⟩ := List.exists_cons_of_ne_nil hne
  have hd : isDigit d = true := hdig d (by simp [hds])
  have hsp := isSpace_of_isDigit hd
  have hne : d ≠ '{' ∧ d ≠ '[' ∧ d ≠ '"' ∧ d ≠ '-' := by
    refine ⟨?_, ?_, ?_, ?_⟩ <;> rintro rfl <;> revert hd <;> decide
  refine ⟨?_, fun k rest hr => ?_⟩
  · unfold formatInt
    split_ifs
    · intro c hc; simp at hc; subst hc; rfl
    · simp [hds, hsp]
  · unfold formatInt
    split_ifs
    · rw [List.cons_append, parseValue_succ_cons k '-' _ rfl]
      simp [scanNumber, scanUnsigned_toDigits ['-'] n.natAbs hr, Except.map]
    · have hnum := scanUnsigned_toDigits [] n.natAbs hr
      rw [hds] at hnum ⊢
      rw [List.cons_append, parseValue_succ_cons k d _ hsp]
      simp only [List.cons_append, List.nil_append] at hnum
      simp [hne, hd, scanNumber, hnum, Except.map]

/-! ## Objects -/

theorem encodeFields_nil : encodeFields ',' [] = ['}'] :=
  rfl

theorem delimited_encodeFields (fields : List (List Char × List Char)) (rest : List Char) :
    Delimited (encodeFields ',' fields ++ rest) := by
  intro c hc
  have hc := Option.mem_def.1 hc
  cases fields with
  | nil => obtain rfl := Option.some.inj hc; simp
  | cons f fs => obtain rfl := Option.some.inj hc; simp

theorem dropWhile_isSpace_of_head {cs : List Char} (h : ∀ c ∈ cs.head?, isSpace c = false) :
    cs.dropWhile isSpace = cs := by
  cases cs with
  | nil => rfl
  | cons c cs => exact List.dropWhile_cons_of_neg (by simp [h c rfl])

theorem encodes_append_head {text rest : List Char} {v : Value} {d : Nat} (hv : Encodes text v d)
    (hr : Delimited rest) : ∀ c ∈ (text ++ rest).head?, isSpace c = false := by
  cases text with
  | nil =>
    intro c hc
    rcases hr c (by simpa using hc) with rfl | rfl | rfl <;> rfl
  | cons t ts => exact hv.1

theorem parseMembers_member (N : Nat) (key text after : List Char) (v : Value)
    (hv : parseValue N (text ++ after) = .ok (v, after))
    (hhead : ∀ c ∈ (text ++ after).head?, isSpace c = false) :
    parseMembers (N + 1) (quoteString key ++ ':' :: text ++ after) =
      match after.dropWhile isSpace with
      | ',' :: rest => (parseMembers N rest).map fun r => ((key, text, v) :: r.1, r.2)
      | '}' :: rest => .ok ([(key, text, v)], rest)
      | rest => .error (errSkip "after object key:value pair" rest) := by
  have hscan : scanString (key.flatMap escapeChar ++ '"' :: ':' :: (text ++ after)) =
      .ok (key, ':' :: (text ++ after)) := scanString_escape _ _
  have htake : (text ++ after).take ((text ++ after).length - after.length) = text :=
    List.take_left' (by simp)
  simp only [quoteString, List.cons_append, List.append_assoc, List.singleton_append, List.nil_append]
  rw [parseMembers, List.dropWhile_cons_of_neg (by decide)]
  simp only [hscan, List.dropWhile_cons_of_neg (show ¬ (isSpace ':' = true) by decide),
    dropWhile_isSpace_of_head hhead, hv, htake] <;> rfl

theorem parseMembers_encodeFields (d : Nat) (rest : List Char) :
    ∀ (ms : List (List Char × List Char × Value)) (m : List Char × List Char × Value) (n : Nat),
      (∀ x ∈ m :: ms, Encodes x.2.1 x.2.2 d) →
      parseMembers (n + d + ms.length + 1)
        (quoteString m.1 ++ ':' :: m.2.1 ++ (encodeFields ',' (ms.map fun x => (x.1, x.2.1)) ++ rest)) =
        .ok (m :: ms, rest) := by
  intro ms
  induction ms with
  | nil =>
    intro m n hall
    have hv := hall m (List.mem_cons_self _ _)
    have hr := delimited_encodeFields [] rest
    rw [encodeFields_nil] at hr
    simp only [List.map_nil, encodeFields_nil, List.length_nil, Nat.add_zero]
    rw [parseMembers_member _ _ _ _ m.2.2 (by simpa using hv.2 n _ hr) (encodes_append_head hv hr)]
    rfl
  | cons m' ms ih =>
    intro m n hall
    have hv := hall m (List.mem_cons_self _ _)
    have hr := delimited_encodeFields ((m' :: ms).map fun x => (x.1, x.2.1)) rest
    have hfuel : n + d + (m' :: ms).length = n + (ms.length + 1) + d := by simp; omega
    have hlist : encodeFields ',' ((m' :: ms).map fun x => (x.1, x.2.1)) ++ rest = ',' ::
        (quoteString m'.1 ++ ':' :: m'.2.1 ++ (encodeFields ',' (ms.map fun x => (x.1, x.2.1)) ++ rest)) := by
      simp [encodeFields]
    rw [parseMembers_member _ _ _ _ m.2.2 (by rw [hfuel]; exact hv.2 _ _ hr) (encodes_append_head hv hr)]
    simp only [hlist, List.dropWhile_cons_of_neg (show ¬ (isSpace ',' = true) by decide),
      List.length_cons, show n + d + (ms.length + 1) = n + d + ms.length + 1 by omega,
      ih m' n (fun x hx => hall x (List.mem_cons_of_mem _ hx))]
    rfl

theorem encodes_encodeFields (d : Nat) (m : List Char × List Char × Value)
    (ms : List (List Char × List Char × Value)) (hall : ∀ x ∈ m :: ms, Encodes x.2.1 x.2.2 d) :
    Encodes (encodeFields '{' ((m :: ms).map fun x => (x.1, x.2.1))) (.object (m :: ms))
      (d + ms.length + 2) := by
  refine ⟨fun c hc => by simp [encodeFields] at hc; subst hc; rfl, fun n rest _ => ?_⟩
  have hlist : encodeFields '{' ((m :: ms).map fun x => (x.1, x.2.1)) ++ rest = '{' ::
      (quoteString m.1 ++ ':' :: m.2.1 ++ (encodeFields ',' (ms.map fun x => (x.1, x.2.1)) ++ rest)) := by
    simp [encodeFields]
  have hq : quoteString m.1 ++ ':' :: m.2.1 ++ (encodeFields ',' (ms.map fun x => (x.1, x.2.1)) ++ rest) =
      '"' :: (m.1.flatMap escapeChar ++ '"' :: ':' :: m.2.1 ++
        (encodeFields ',' (ms.map fun x => (x.1, x.2.1)) ++ rest)) := by
    simp [quoteString]
  rw [hlist, show n + (d + ms.length + 2) = n + d + ms.length + 1 + 1 by omega,
    parseValue_succ_cons _ '{' _ rfl, if_pos rfl, hq, List.dropWhile_cons_of_neg (by decide)]
  split
  · rename_i heq; exact absurd (List.cons.inj heq).1 (by decide)
  · rw [← hq, parseMembers_encodeFields d rest ms m n hall]
    rfl

theorem parse_of_encodes {text : List Char} {v : Value} {d : Nat} (h : Encodes text v d)
    (hd : d ≤ text.length + 1) : parse text = .ok v := by
  obtain ⟨n, hn⟩ : ∃ n, text.length + 1 = n + d := ⟨text.length + 1 - d, by omega⟩
  have hv := h.2 n [] (fun c hc => by cases hc)
  rw [List.append_nil] at hv
  rw [parse, hn, hv]
  rfl

end OpenshiftAcme.Json
