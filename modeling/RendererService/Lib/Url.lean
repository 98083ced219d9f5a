import RendererService.Lib.Decimal
import Mathlib.Data.List.TakeWhile

/-!
# Taking a URL apart

The parts of an `http` URL as a client and a server read it: the authority up to
the first slash, the port after its last colon, IPv6 literals in brackets, and
the path up to a query or a fragment, percent-decoded.  A string is read as the
characters that its bytes number.
-/

namespace Url

/-! ## Percent-decoding -/

def hexValue (c : Char) : Option Nat :=
  if c.isDigit then some (c.toNat - '0'.toNat)
  else if 'a' ≤ c ∧ c ≤ 'f' then some (c.toNat - 'a'.toNat + 10)
  else if 'A' ≤ c ∧ c ≤ 'F' then some (c.toNat - 'A'.toNat + 10)
  else none

/-- A percent sign that two hexadecimal digits do not follow stands for itself. -/
def percentDecode : List Char → List Char
  | '%' :: a :: b :: rest =>
      match hexValue a, hexValue b with
      | some x, some y => Char.ofNat (16 * x + y) :: percentDecode rest
      | _, _ => '%' :: percentDecode (a :: b :: rest)
  | c :: rest => c :: percentDecode rest
  | [] => []

def startsEscape : List Char → Bool
  | '%' :: a :: b :: _ => (hexValue a).isSome && (hexValue b).isSome
  | _ => false

def hasEscape : List Char → Bool
  | [] => false
  | c :: rest => startsEscape (c :: rest) || hasEscape rest

theorem length_percentDecode_le (l : List Char) : (percentDecode l).length ≤ l.length := by
  induction l using percentDecode.induct with
  | case1 a b rest x y hx hy ih =>
      simp only [percentDecode, hx, hy, List.length_cons]
      omega
  | case2 a b rest hnot ih =>
      rw [percentDecode]
      split
      next x y hx hy => exact absurd hy (hnot x y hx)
      · simpa using ih
  | case3 c rest hshape ih =>
      rw [percentDecode]
      · simpa using ih
      · exact hshape
  | case4 => exact Nat.le_refl _

theorem length_percentDecode_lt {l : List Char} (h : hasEscape l = true) :
    (percentDecode l).length < l.length := by
  induction l using percentDecode.induct with
  | case1 a b rest x y hx hy _ =>
      have hle := length_percentDecode_le rest
      simp only [percentDecode, hx, hy, List.length_cons]
      omega
  | case2 a b rest hnot ih =>
      have hstarts : startsEscape ('%' :: a :: b :: rest) = false := by
        rw [startsEscape, Bool.and_eq_false_iff]
        cases hx : hexValue a with
        | none => exact .inl rfl
        | some x =>
            cases hy : hexValue b with
            | none => exact .inr rfl
            | some y => exact absurd hy (hnot x y hx)
      rw [hasEscape, hstarts, Bool.false_or] at h
      rw [percentDecode]
      split
      next x y hx hy => exact absurd hy (hnot x y hx)
      · simpa using ih h
  | case3 c rest hshape ih =>
      have hstarts : startsEscape (c :: rest) = false := by
        rw [startsEscape]
        intro a b tail heq
        obtain ⟨hc, hrest⟩ := List.cons.inj heq
        exact hshape a b tail hc hrest
      rw [hasEscape, hstarts, Bool.false_or] at h
      rw [percentDecode]
      · simpa using ih h
      · exact hshape
  | case4 => simp [hasEscape] at h

theorem percentDecode_of_not_hasEscape {l : List Char} (h : hasEscape l = false) :
    percentDecode l = l := by
  induction l using percentDecode.induct with
  | case1 a b rest x y hx hy _ => simp [hasEscape, startsEscape, hx, hy] at h
  | case2 a b rest hnot ih =>
      rw [hasEscape, Bool.or_eq_false_iff] at h
      rw [percentDecode]
      split
      next x y hx hy => exact absurd hy (hnot x y hx)
      · rw [ih h.2]
  | case3 c rest hshape ih =>
      rw [hasEscape, Bool.or_eq_false_iff] at h
      rw [percentDecode, ih h.2]
      exact hshape
  | case4 => rfl

/-- An escape stands for fewer characters than it has. -/
theorem percentDecode_eq_self_iff (l : List Char) :
    percentDecode l = l ↔ hasEscape l = false := by
  constructor
  · intro heq
    rw [Bool.eq_false_iff]
    intro hescape
    have hlt := length_percentDecode_lt hescape
    rw [heq] at hlt
    omega
  · exact percentDecode_of_not_hasEscape

/-- An escape starts with a percent sign. -/
theorem hasEscape_append {pre : List Char} (hpre : '%' ∉ pre) (l : List Char) :
    hasEscape (pre ++ l) = hasEscape l := by
  induction pre with
  | nil => rfl
  | cons c pre ih =>
      rw [List.mem_cons, not_or] at hpre
      have hstarts : startsEscape (c :: (pre ++ l)) = false := by
        rw [startsEscape]
        exact fun a b rest heq => hpre.1 (List.cons.inj heq).1.symm
      rw [List.cons_append, hasEscape, hstarts, Bool.false_or, ih hpre.2]

/-! ## Host and port -/

/-- What stands before the last `c`, and after it. -/
def splitLast (c : Char) : List Char → Option (List Char × List Char)
  | [] => none
  | x :: xs =>
      match splitLast c xs with
      | some (before, after) => some (x :: before, after)
      | none => if x = c then some ([], xs) else none

theorem splitLast_of_not_mem {c : Char} {l : List Char} (h : c ∉ l) : splitLast c l = none := by
  induction l with
  | nil => rfl
  | cons x xs ih =>
      rw [List.mem_cons, not_or] at h
      rw [splitLast, ih h.2]
      exact if_neg (Ne.symm h.1)

theorem splitLast_append {c : Char} {after : List Char} (h : c ∉ after) (before : List Char) :
    splitLast c (before ++ c :: after) = some (before, after) := by
  induction before with
  | nil =>
      rw [List.nil_append, splitLast, splitLast_of_not_mem h]
      exact if_pos rfl
  | cons x before ih =>
      rw [List.cons_append, splitLast, ih]

/-- The address of a host: an IPv6 literal in brackets, or a name without a colon. -/
def hostOf : List Char → Option (List Char)
  | '[' :: rest =>
      match splitLast ']' rest with
      | some (host, []) => some host
      | _ => none
  | host => if ':' ∈ host then none else some host

def portOf (digits : List Char) : Option Nat :=
  if digits ≠ [] ∧ digits.all Char.isDigit then some (Nat.ofDigitChars 10 digits 0) else none

theorem portOf_toString (n : Nat) : portOf (toString n).toList = some n := by
  have hprint : (toString n).toList = Nat.toDigits 10 n := Nat.toList_repr
  have hdigits : (toString n).toList.all Char.isDigit = true := by
    rw [List.all_eq_true]
    exact fun c hc => Decimal.isDigit_of_mem_toString hc
  have hsome : (toString n).toList ≠ [] := hprint ▸ Nat.toDigits_ne_nil
  rw [portOf, if_pos ⟨hsome, hdigits⟩, hprint,
    Nat.ofDigitChars_toDigits (by decide) (by decide)]

/-! ## The parts of a URL -/

structure Target where
  host : String
  port : Nat
  path : String
deriving DecidableEq, Repr

/-- The path that the server is asked for: without query and fragment, decoded. -/
def requestPath (l : List Char) : List Char :=
  percentDecode (l.takeWhile fun c => c ≠ '?' ∧ c ≠ '#')

/-- The parts of what follows `http://`. -/
def splitRest (rest : List Char) : Option Target :=
  match splitLast ':' (rest.takeWhile (· ≠ '/')) with
  | none => none
  | some (before, digits) =>
      match hostOf before, portOf digits with
      | some host, some port => some {
          host := String.ofList host
          port := port
          path := String.ofList (requestPath (rest.dropWhile (· ≠ '/'))) }
      | _, _ => none

def split (url : String) : Option Target :=
  match url.toList with
  | 'h' :: 't' :: 't' :: 'p' :: ':' :: '/' :: '/' :: rest => splitRest rest
  | _ => none

example : split "http://[::1]:49152/a%20b.mp3?c" = some ⟨"::1", 49152, "/a b.mp3"⟩ := by
  decide +kernel

/-- A path is asked for as it is exactly if it has no query, fragment or escape. -/
theorem requestPath_eq_self_iff (l : List Char) :
    requestPath l = l ↔ '?' ∉ l ∧ '#' ∉ l ∧ hasEscape l = false := by
  have hprefix := List.takeWhile_prefix (fun c : Char => decide (c ≠ '?' ∧ c ≠ '#')) (l := l)
  constructor
  · intro heq
    have hlength := length_percentDecode_le (l.takeWhile fun c => c ≠ '?' ∧ c ≠ '#')
    rw [show percentDecode (l.takeWhile fun c => c ≠ '?' ∧ c ≠ '#') = l from heq] at hlength
    have hwhole := hprefix.eq_of_length_le hlength
    rw [requestPath, hwhole, percentDecode_eq_self_iff] at heq
    rw [List.takeWhile_eq_self_iff] at hwhole
    have hplain : ∀ c ∈ l, c ≠ '?' ∧ c ≠ '#' := fun c hc => of_decide_eq_true (hwhole c hc)
    exact ⟨fun hmem => (hplain _ hmem).1 rfl, fun hmem => (hplain _ hmem).2 rfl, heq⟩
  · rintro ⟨hquery, hfragment, hescape⟩
    have hwhole : l.takeWhile (fun c => c ≠ '?' ∧ c ≠ '#') = l := by
      rw [List.takeWhile_eq_self_iff]
      intro c hc
      exact decide_eq_true ⟨fun h => hquery (h ▸ hc), fun h => hfragment (h ▸ hc)⟩
    rw [requestPath, hwhole, percentDecode_eq_self_iff]
    exact hescape

/-- The URL that is printed from a host, a port and a path is taken apart there, if the
host is written as one. -/
theorem split_print {host : String} (hhost : '/' ∉ host.toList) (port : Nat) {path : String}
    {rest : List Char} (hpath : path.toList = '/' :: rest) :
    split ("http://" ++ host ++ ":" ++ toString port ++ path) =
      (hostOf host.toList).map fun address => {
        host := String.ofList address
        port := port
        path := String.ofList (requestPath path.toList) } := by
  have hauthority : ∀ c ∈ host.toList ++ ':' :: (toString port).toList,
      decide (c ≠ '/') = true := by
    intro c hc
    apply decide_eq_true
    rintro rfl
    rcases List.mem_append.mp hc with hc | hc
    · exact hhost hc
    · rcases List.mem_cons.mp hc with hc | hc
      · exact absurd hc (by decide)
      · exact absurd (Decimal.isDigit_of_mem_toString hc) (by decide)
  have hcolon : ':' ∉ (toString port).toList := fun hc =>
    absurd (Decimal.isDigit_of_mem_toString hc) (by decide)
  have hlist : ("http://" ++ host ++ ":" ++ toString port ++ path).toList =
      'h' :: 't' :: 't' :: 'p' :: ':' :: '/' :: '/' ::
        ((host.toList ++ ':' :: (toString port).toList) ++ '/' :: rest) := by
    simp [String.toList_append, hpath]
  have htake : (((host.toList ++ ':' :: (toString port).toList) ++ '/' :: rest).takeWhile
      fun c => decide (c ≠ '/')) = host.toList ++ ':' :: (toString port).toList := by
    rw [List.takeWhile_append_of_pos hauthority]
    simp
  have hdrop : (((host.toList ++ ':' :: (toString port).toList) ++ '/' :: rest).dropWhile
      fun c => decide (c ≠ '/')) = '/' :: rest := by
    rw [List.dropWhile_append_of_pos hauthority]
    simp
  rw [split, hlist]
  show splitRest _ = _
  rw [splitRest, htake, splitLast_append hcolon, hdrop, hpath]
  dsimp only
  rw [portOf_toString]
  cases hostOf host.toList <;> rfl

/-! ## Addresses -/

/-- Four decimal numbers below 256, as `inet_ntop` prints them. -/
def Ipv4 (s : String) : Prop :=
  ∃ a b c d : Nat, a < 256 ∧ b < 256 ∧ c < 256 ∧ d < 256 ∧
    s = toString a ++ "." ++ toString b ++ "." ++ toString c ++ "." ++ toString d

/-- What every text of an IPv6 address is: hexadecimal digits, dots and colons, two of
these at least. -/
def Ipv6 (s : String) : Prop :=
  (∀ c ∈ s.toList, (hexValue c).isSome ∨ c = '.' ∨ c = ':') ∧ 2 ≤ s.toList.count ':'

theorem Ipv4.digits_or_dot {s : String} (h : Ipv4 s) :
    ∀ c ∈ s.toList, c.isDigit = true ∨ c = '.' := by
  obtain ⟨a, b, c, d, -, -, -, -, rfl⟩ := h
  have hdot : ".".toList = ['.'] := rfl
  intro x hx
  simp only [String.toList_append, hdot, List.mem_append, List.mem_singleton] at hx
  have hdigit : ∀ n : Nat, x ∈ (toString n).toList → x.isDigit = true ∨ x = '.' :=
    fun n hn => .inl (Decimal.isDigit_of_mem_toString hn)
  rcases hx with (((((hx | hx) | hx) | hx) | hx) | hx) | hx
  · exact hdigit a hx
  · exact .inr hx
  · exact hdigit b hx
  · exact .inr hx
  · exact hdigit c hx
  · exact .inr hx
  · exact hdigit d hx

theorem Ipv4.not_mem {s : String} (h : Ipv4 s) {c : Char} (hdigit : c.isDigit = false)
    (hdot : c ≠ '.') : c ∉ s.toList := by
  intro hc
  rcases h.digits_or_dot c hc with hc | hc
  · simp [hdigit] at hc
  · exact hdot hc

theorem Ipv6.not_mem {s : String} (h : Ipv6 s) {c : Char} (hhex : hexValue c = none)
    (hdot : c ≠ '.') (hcolon : c ≠ ':') : c ∉ s.toList := by
  intro hc
  rcases h.1 c hc with hc | hc | hc
  · simp [hhex] at hc
  · exact hdot hc
  · exact hcolon hc

theorem Ipv6.colon_mem {s : String} (h : Ipv6 s) : ':' ∈ s.toList :=
  List.count_pos_iff.mp (Nat.lt_of_lt_of_le Nat.zero_lt_two h.2)

theorem Ipv4.not_ipv6 {s : String} (h : Ipv4 s) : ¬Ipv6 s := fun h' =>
  h.not_mem (by decide) (by decide) h'.colon_mem

/-- A host without brackets is one if it has no colon. -/
theorem hostOf_eq {host : List Char} (hbracket : '[' ∉ host) :
    hostOf host = if ':' ∈ host then none else some host := by
  unfold hostOf
  split
  · simp at hbracket
  · rfl

end Url
