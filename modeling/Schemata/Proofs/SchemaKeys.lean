import Mathlib.Data.List.Nodup
import Schemata.Schema

/-!
Schema keys against names compared ignoring case.

A schema keys every name and alias of its properties by the lower case of the whole text,
which lowers a capital sigma that ends a word to the final sigma `ς`. Names compared ignoring
case are lowered character by character, and every capital sigma becomes `σ`. The two agree
on texts without a capital sigma and part ways on some with one: `AΣ` keys as `aς` and `Aσ`
as `aσ`, though the two are equal ignoring case, while `Aς` keys as `aς` too, though it is not
equal to `AΣ` ignoring case.

So what building and finding do is stated through the keys. Building fails exactly when two
entries of the list of properties have a name or alias of the same key, and the error names
one of the names of an entry. Finding a name in a built schema answers with the property that
has a name or alias of the name's key, and with nothing when none has one.
-/

namespace Schemata

/-- Once no capital sigma is left, lowering a text as a whole lowers it character by
character. -/
theorem lowercaseFrom_of_sigma_free : ∀ (before cs : List Char), 'Σ' ∉ cs →
    lowercaseFrom before cs = cs.flatMap Char.lowercase
  | _, [], _ => rfl
  | before, c :: after, absent => by
    have plain : c.toNat ≠ 0x3A3 := by
      intro same
      have sigma : c = 'Σ' := Char.toNat_inj.mp (by rw [same]; rfl)
      exact absent (sigma ▸ List.mem_cons_self ..)
    have rest : 'Σ' ∉ after := fun mem => absent (List.mem_cons_of_mem c mem)
    simp only [lowercaseFrom, if_neg plain, List.flatMap_cons,
      lowercaseFrom_of_sigma_free (c :: before) after rest]

/-- Without a capital sigma, two texts have the same key exactly when they are equal ignoring
case. -/
theorem lowercaseText_eq_iff_of_sigma_free {m n : String} (mPlain : 'Σ' ∉ m.toList)
    (nPlain : 'Σ' ∉ n.toList) :
    lowercaseText m = lowercaseText n ↔ equalIgnoringCase m n = true := by
  rw [lowercaseText, lowercaseText, lowercaseFrom_of_sigma_free [] _ mPlain,
    lowercaseFrom_of_sigma_free [] _ nPlain, String.ofList_inj, equalIgnoringCase, beq_iff_eq]

/-- No name or alias of `p` has the key of a name or alias of `q`. -/
def KeysApart (p q : Property) : Prop :=
  ∀ m ∈ p.names, ∀ n ∈ q.names, lowercaseText m ≠ lowercaseText n

/-- No name or alias of `p` holds a capital sigma. -/
def SigmaFree (p : Property) : Prop := ∀ m ∈ p.names, 'Σ' ∉ m.toList

instance : DecidableRel KeysApart := fun p q =>
  inferInstanceAs (Decidable (∀ m ∈ p.names, ∀ n ∈ q.names, lowercaseText m ≠ lowercaseText n))

instance : DecidablePred SigmaFree := fun p =>
  inferInstanceAs (Decidable (∀ m ∈ p.names, 'Σ' ∉ m.toList))

/-- Between properties whose names hold no capital sigma, different keys are what the
comparer by name or alias ignoring case calls different properties. -/
theorem keysApart_iff_not_same {p q : Property} (pPlain : SigmaFree p) (qPlain : SigmaFree q) :
    KeysApart p q ↔ Comparer.byNameOrAliasIgnoreCase.same p q = false := by
  simp only [KeysApart, Comparer.same, List.any_eq_false, Bool.not_eq_true]
  refine forall₂_congr fun m mName => forall₂_congr fun n nName => ?_
  rw [Ne, lowercaseText_eq_iff_of_sigma_free (pPlain m mName) (qPlain n nName)]
  simp

/-! ## Key lists -/

/-- In a list of keyed positions with distinct keys, a key finds its own entry. -/
theorem find?_key_of_mem {acc : List (String × Nat)} (distinct : (acc.map Prod.fst).Nodup)
    {k : String} {i : Nat} (mem : (k, i) ∈ acc) : acc.find? (·.1 == k) = some (k, i) := by
  cases found : acc.find? (·.1 == k) with
  | none => simp [List.find?_eq_none] at found; exact absurd mem (found k i · rfl)
  | some entry =>
    have keyed : entry.1 = k := by simpa using List.find?_some found
    rw [List.inj_on_of_nodup_map distinct (List.mem_of_find?_eq_some found) mem keyed]

theorem find?_key_eq_none {acc : List (String × Nat)} {k : String} :
    acc.find? (·.1 == k) = none ↔ k ∉ acc.map Prod.fst := by
  simp only [List.find?_eq_none, beq_iff_eq, List.mem_map, not_exists, not_and]

namespace SchemaBuilder

section Keying

variable {schema : String} {index : Nat}

/-- Keying a name succeeds when no other position holds its key, and adds its key for
`index` unless already there. -/
theorem keyName_ok {acc acc' : List (String × Nat)} {n : String}
    (distinct : (acc.map Prod.fst).Nodup) (step : keyName schema index acc n = .ok acc') :
    (∀ i, (lowercaseText n, i) ∈ acc → i = index) ∧ (acc'.map Prod.fst).Nodup ∧
      ∀ entry, entry ∈ acc' ↔ entry ∈ acc ∨ entry = (lowercaseText n, index) := by
  simp only [keyName] at step
  split at step
  next k previous found =>
    have mem := List.mem_of_find?_eq_some found
    have keyed : k = lowercaseText n := by simpa using List.find?_some found
    subst keyed
    split at step
    · cases step
    next kept =>
      have same : previous = index := by simpa using kept
      cases step
      subst same
      refine ⟨fun i held => ?_, distinct, fun entry => ⟨.inl, ?_⟩⟩
      · have := List.inj_on_of_nodup_map distinct held mem rfl
        simpa using this
      · rintro (held | rfl)
        · exact held
        · exact mem
  next absent =>
    cases step
    have fresh : lowercaseText n ∉ acc.map Prod.fst := find?_key_eq_none.mp absent
    refine ⟨fun i held => absurd (List.mem_map_of_mem held) fresh,
      List.nodup_cons.mpr ⟨fresh, distinct⟩, fun entry => ?_⟩
    simp [or_comm]

/-- Keying a name fails only on a key that another position holds, and names the name. -/
theorem keyName_error {acc : List (String × Nat)} {n : String} {e : SchemaError}
    (step : keyName schema index acc n = .error e) :
    (∃ i, i ≠ index ∧ (lowercaseText n, i) ∈ acc) ∧ e = .duplicateProperty schema n := by
  simp only [keyName] at step
  split at step
  next k previous found =>
    have keyed : k = lowercaseText n := by simpa using List.find?_some found
    subst keyed
    split at step
    next moved =>
      cases step
      exact ⟨⟨previous, by simpa using moved, List.mem_of_find?_eq_some found⟩, rfl⟩
    · cases step
  · cases step

/-- Keying the names `ns` of the property at `index`: it succeeds when no other position holds
one of their keys, and adds their keys for `index`. -/
theorem foldlM_keyName_ok : ∀ {ns : List String} {acc acc' : List (String × Nat)},
    (acc.map Prod.fst).Nodup → ns.foldlM (keyName schema index) acc = .ok acc' →
    (∀ n ∈ ns, ∀ i, (lowercaseText n, i) ∈ acc → i = index) ∧ (acc'.map Prod.fst).Nodup ∧
      ∀ entry, entry ∈ acc' ↔
        entry ∈ acc ∨ entry.2 = index ∧ ∃ n ∈ ns, lowercaseText n = entry.1
  | [], acc, acc', distinct, done => by
    cases done
    exact ⟨by simp, distinct, by simp⟩
  | n :: rest, acc, acc', distinct, done => by
    rw [List.foldlM_cons] at done
    cases step : keyName schema index acc n with
    | error e => rw [step] at done; cases done
    | ok middle =>
      rw [step] at done
      obtain ⟨first, middleDistinct, middleEntries⟩ := keyName_ok distinct step
      obtain ⟨later, lastDistinct, lastEntries⟩ := foldlM_keyName_ok middleDistinct done
      refine ⟨?_, lastDistinct, fun entry => ?_⟩
      · intro m named i held
        rcases List.mem_cons.mp named with rfl | named
        · exact first i held
        · exact later m named i ((middleEntries _).mpr (.inl held))
      · rw [lastEntries, middleEntries]
        obtain ⟨k, i⟩ := entry
        simp only [Prod.mk.injEq, List.mem_cons, or_and_right, exists_or, exists_eq_left]
        constructor
        · rintro ((held | ⟨rfl, rfl⟩) | ⟨rfl, named⟩)
          · exact .inl held
          · exact .inr ⟨rfl, .inl rfl⟩
          · exact .inr ⟨rfl, .inr named⟩
        · rintro (held | ⟨rfl, rfl | named⟩)
          · exact .inl (.inl held)
          · exact .inl (.inr ⟨rfl, rfl⟩)
          · exact .inr ⟨rfl, named⟩

/-- Keying the names `ns` fails only on a name whose key another position holds. -/
theorem foldlM_keyName_error : ∀ {ns : List String} {acc : List (String × Nat)} {e : SchemaError},
    (acc.map Prod.fst).Nodup → ns.foldlM (keyName schema index) acc = .error e →
    ∃ n ∈ ns, (∃ i, i ≠ index ∧ (lowercaseText n, i) ∈ acc) ∧
      e = .duplicateProperty schema n
  | [], _, _, _, done => by cases done
  | n :: rest, acc, e, distinct, done => by
    rw [List.foldlM_cons] at done
    cases step : keyName schema index acc n with
    | error e' =>
      rw [step] at done
      cases done
      exact ⟨n, List.mem_cons_self .., keyName_error step⟩
    | ok middle =>
      rw [step] at done
      obtain ⟨-, middleDistinct, middleEntries⟩ := keyName_ok distinct step
      obtain ⟨m, named, ⟨i, moved, held⟩, rfl⟩ := foldlM_keyName_error middleDistinct done
      refine ⟨m, List.mem_cons_of_mem n named, ⟨i, moved, ?_⟩, rfl⟩
      rcases (middleEntries _).mp held with held | same
      · exact held
      · exact absurd (Prod.mk.inj same).2 moved

/-- Keying the properties from position `index` on adds, for each position, the keys of the
names of the property there. -/
theorem keyNames_ok : ∀ {props : List Property} {acc keys : List (String × Nat)} {index : Nat},
    (acc.map Prod.fst).Nodup → keyNames schema acc index props = .ok keys →
    (keys.map Prod.fst).Nodup ∧ ∀ entry, entry ∈ keys ↔ entry ∈ acc ∨
      ∃ p, (p, entry.2) ∈ props.zipIdx index ∧ ∃ m ∈ p.names, lowercaseText m = entry.1
  | [], acc, keys, _, distinct, done => by
    cases done
    exact ⟨distinct, by simp⟩
  | p :: rest, acc, keys, index, distinct, done => by
    rw [keyNames] at done
    cases fold : p.names.foldlM (keyName schema index) acc with
    | error e => rw [fold] at done; cases done
    | ok middle =>
      rw [fold] at done
      obtain ⟨-, middleDistinct, middleEntries⟩ := foldlM_keyName_ok distinct fold
      obtain ⟨lastDistinct, lastEntries⟩ := keyNames_ok middleDistinct done
      refine ⟨lastDistinct, fun entry => ?_⟩
      rw [lastEntries, middleEntries, List.zipIdx_cons]
      simp only [List.mem_cons, Prod.mk.injEq, or_and_right, exists_or, and_assoc,
        exists_eq_left, or_assoc]

/-- Keying the properties from position `index` on, over keys held by earlier positions,
succeeds exactly when none of their names has a key already held and no two of them have
names of one key. -/
theorem keyNames_ok_iff : ∀ {props : List Property} {acc : List (String × Nat)} {index : Nat},
    (acc.map Prod.fst).Nodup → (∀ entry ∈ acc, entry.2 < index) →
    ((∃ keys, keyNames schema acc index props = .ok keys) ↔
      (∀ p ∈ props, ∀ m ∈ p.names, lowercaseText m ∉ acc.map Prod.fst) ∧
        props.Pairwise KeysApart)
  | [], _, _, _, _ => by simp [keyNames]
  | p :: rest, acc, index, distinct, earlier => by
    rw [keyNames]
    cases fold : p.names.foldlM (keyName schema index) acc with
    | error e =>
      obtain ⟨n, named, ⟨i, -, held⟩, -⟩ := foldlM_keyName_error distinct fold
      refine iff_of_false (fun ⟨_, done⟩ => by cases done) fun ⟨outside, _⟩ => ?_
      exact outside p List.mem_cons_self n named (List.mem_map_of_mem held)
    | ok middle =>
      obtain ⟨first, middleDistinct, middleEntries⟩ := foldlM_keyName_ok distinct fold
      -- the keys of `p` go in for `index`, and all that was there before is below it
      have fresh : ∀ m ∈ p.names, lowercaseText m ∉ acc.map Prod.fst := by
        intro m named held
        obtain ⟨⟨k, i⟩, member, rfl⟩ := List.mem_map.mp held
        exact absurd (first m named i member) (Nat.ne_of_lt (earlier _ member))
      have below : ∀ entry ∈ middle, entry.2 < index + 1 := by
        intro entry member
        rcases (middleEntries entry).mp member with held | ⟨same, -⟩
        · exact Nat.lt_succ_of_lt (earlier entry held)
        · omega
      have middleKeys : ∀ k, k ∈ middle.map Prod.fst ↔
          k ∈ acc.map Prod.fst ∨ ∃ n ∈ p.names, lowercaseText n = k := by
        intro k
        simp only [List.mem_map, Prod.exists, exists_and_right, exists_eq_right, middleEntries]
        constructor
        · rintro ⟨i, held | ⟨-, named⟩⟩
          · exact .inl ⟨i, held⟩
          · exact .inr named
        · rintro (⟨i, held⟩ | named)
          · exact ⟨i, .inl held⟩
          · exact ⟨index, .inr ⟨rfl, named⟩⟩
      show (∃ keys, keyNames schema middle (index + 1) rest = .ok keys) ↔ _
      rw [keyNames_ok_iff middleDistinct below, List.pairwise_cons]
      simp only [middleKeys, List.forall_mem_cons, not_or]
      constructor
      · rintro ⟨outside, apart⟩
        refine ⟨⟨fresh, fun q member m named => (outside q member m named).1⟩,
          fun q member m mine n named same => ?_, apart⟩
        exact (outside q member n named).2 ⟨m, mine, same⟩
      · rintro ⟨⟨-, outside⟩, apartHead, apart⟩
        refine ⟨fun q member m named => ⟨outside q member m named, ?_⟩, apart⟩
        rintro ⟨n, mine, same⟩
        exact apartHead q member n mine m named same

/-- A failure of keying the properties from position `index` on names a name of one of them
whose key is held before: by the keys it started from, or by a name of an earlier one. -/
theorem keyNames_error : ∀ {props : List Property} {acc : List (String × Nat)} {index : Nat}
    {e : SchemaError}, (acc.map Prod.fst).Nodup → keyNames schema acc index props = .error e →
    ∃ p j, (p, j) ∈ props.zipIdx index ∧ ∃ n ∈ p.names, e = .duplicateProperty schema n ∧
      (lowercaseText n ∈ acc.map Prod.fst ∨ ∃ q i, (q, i) ∈ props.zipIdx index ∧ i < j ∧
        ∃ m ∈ q.names, lowercaseText m = lowercaseText n)
  | [], _, _, _, _, done => by cases done
  | p :: rest, acc, index, e, distinct, done => by
    rw [keyNames] at done
    cases fold : p.names.foldlM (keyName schema index) acc with
    | error e' =>
      rw [fold] at done
      cases done
      obtain ⟨n, named, ⟨i, -, held⟩, rfl⟩ := foldlM_keyName_error distinct fold
      exact ⟨p, index, by simp, n, named, rfl, .inl (List.mem_map_of_mem held)⟩
    | ok middle =>
      rw [fold] at done
      obtain ⟨-, middleDistinct, middleEntries⟩ := foldlM_keyName_ok distinct fold
      obtain ⟨q, j, placed, n, named, rfl, clash⟩ := keyNames_error middleDistinct done
      have later : index < j := List.le_snd_of_mem_zipIdx placed
      refine ⟨q, j, by simp [placed], n, named, rfl, ?_⟩
      rcases clash with held | ⟨q', i, placed', earlier, m, mine, same⟩
      · obtain ⟨⟨k, i⟩, member, keyed⟩ := List.mem_map.mp held
        rcases (middleEntries _).mp member with held | ⟨-, m, mine, same⟩
        · exact .inl (keyed ▸ List.mem_map_of_mem held)
        · exact .inr ⟨p, index, by simp, later, m, mine, same.trans keyed⟩
      · exact .inr ⟨q', i, by simp [placed'], earlier, m, mine, same⟩

end Keying

-- A build is its keying of the properties, from no keys at position 0.
theorem build_eq_ok {b : SchemaBuilder} {object : Nat} {s : Schema} :
    b.build object = .ok s ↔ ∃ keys, keyNames b.name [] 0 b.properties = .ok keys ∧
      s = ⟨object, b.name, b.properties, keys, b.metadata⟩ := by
  unfold build
  cases keyNames b.name [] 0 b.properties <;> simp [eq_comm]

theorem build_eq_error {b : SchemaBuilder} {object : Nat} {e : SchemaError} :
    b.build object = .error e ↔ keyNames b.name [] 0 b.properties = .error e := by
  unfold build
  cases keyNames b.name [] 0 b.properties <;> simp

/-- A built schema holds the properties it was declared with, under distinct keys, each the key
of a name of the property at its position. -/
theorem build_keys {b : SchemaBuilder} {object : Nat} {s : Schema}
    (built : b.build object = .ok s) :
    s.properties = b.properties ∧ (s.keys.map Prod.fst).Nodup ∧ ∀ k j, (k, j) ∈ s.keys ↔
      ∃ p, b.properties[j]? = some p ∧ ∃ m ∈ p.names, lowercaseText m = k := by
  obtain ⟨keys, keyed, rfl⟩ := build_eq_ok.mp built
  obtain ⟨distinct, entries⟩ := keyNames_ok (by simp) keyed
  refine ⟨rfl, distinct, fun k j => ?_⟩
  simp [entries, List.mem_zipIdx_iff_getElem?]

/-- Building succeeds exactly when no two entries have names of one key. -/
theorem build_ok_iff {b : SchemaBuilder} {object : Nat} :
    (∃ s, b.build object = .ok s) ↔ b.properties.Pairwise KeysApart := by
  have keying : (∃ keys, keyNames b.name [] 0 b.properties = .ok keys) ↔ _ :=
    keyNames_ok_iff List.nodup_nil (by simp)
  simp only [List.map_nil, List.not_mem_nil, not_false_eq_true, implies_true, true_and]
    at keying
  rw [← keying]
  constructor
  · rintro ⟨s, built⟩
    obtain ⟨keys, keyed, -⟩ := build_eq_ok.mp built
    exact ⟨keys, keyed⟩
  · rintro ⟨keys, keyed⟩
    exact ⟨_, build_eq_ok.mpr ⟨keys, keyed, rfl⟩⟩

/-- A failed build names a name of an entry whose key a name of an earlier entry has. -/
theorem build_error {b : SchemaBuilder} {object : Nat} {e : SchemaError}
    (failed : b.build object = .error e) :
    ∃ (j : Nat) (p : Property), b.properties[j]? = some p ∧ ∃ n ∈ p.names,
      e = .duplicateProperty b.name n ∧ ∃ i < j, ∃ q : Property, b.properties[i]? = some q ∧
        ∃ m ∈ q.names, lowercaseText m = lowercaseText n := by
  obtain ⟨p, j, placed, n, named, rfl, clash⟩ := keyNames_error (by simp) (build_eq_error.mp failed)
  -- nothing was keyed before the first position, so the clash is with an earlier entry
  rcases clash with held | ⟨q, i, placed', earlier, m, mine, same⟩
  · simp at held
  · exact ⟨j, p, List.mem_zipIdx_iff_getElem?.mp placed, n, named, rfl, i, earlier, q,
      List.mem_zipIdx_iff_getElem?.mp placed', m, mine, same⟩

/-- Finding a name in a built schema answers with the entry that has a name of the same key. -/
theorem find?_of_build {b : SchemaBuilder} {object : Nat} {s : Schema}
    (built : b.build object = .ok s) (n : String) (p : Property) :
    s.find? n = some p ↔
      p ∈ b.properties ∧ ∃ m ∈ p.names, lowercaseText m = lowercaseText n := by
  obtain ⟨same, distinct, entries⟩ := build_keys built
  simp only [Schema.find?, Option.bind_eq_some_iff, same]
  constructor
  · rintro ⟨⟨k, j⟩, found, placed⟩
    have keyed : k = lowercaseText n := by simpa using List.find?_some found
    obtain ⟨q, placed', m, named, rfl⟩ := (entries k j).mp (List.mem_of_find?_eq_some found)
    obtain rfl : q = p := Option.some.inj (placed'.symm.trans placed)
    exact ⟨List.mem_of_getElem? placed, m, named, keyed⟩
  · rintro ⟨member, m, named, keyed⟩
    obtain ⟨j, placed⟩ := List.mem_iff_getElem?.mp member
    exact ⟨(lowercaseText n, j),
      find?_key_of_mem distinct ((entries _ j).mpr ⟨p, placed, m, named, keyed⟩), placed⟩

/-- Building and finding go by the keys of the names, the lower case of the whole text: a
build fails exactly when two entries have names of one key, and then names a name of a later
one; a built schema finds a name's entry by its key. Only for names without a capital sigma
are keys apart what the comparer by name or alias ignoring case calls different. -/
theorem build_and_find_by_lowercase_text (b : SchemaBuilder) (object : Nat) :
    ((∃ s, b.build object = .ok s) ↔ b.properties.Pairwise KeysApart) ∧
    (∀ e, b.build object = .error e →
      ∃ (j : Nat) (p : Property), b.properties[j]? = some p ∧ ∃ n ∈ p.names,
        e = .duplicateProperty b.name n ∧ ∃ i < j, ∃ q : Property, b.properties[i]? = some q ∧
          ∃ m ∈ q.names, lowercaseText m = lowercaseText n) ∧
    (∀ s, b.build object = .ok s → ∀ n p,
      s.find? n = some p ↔
        p ∈ b.properties ∧ ∃ m ∈ p.names, lowercaseText m = lowercaseText n) ∧
    (∀ p q, SigmaFree p → SigmaFree q →
      (KeysApart p q ↔ Comparer.byNameOrAliasIgnoreCase.same p q = false)) :=
  ⟨build_ok_iff, fun _ failed => build_error failed, fun _ built => find?_of_build built,
    fun _ _ => keysApart_iff_not_same⟩

def capitalSigma : Property := { id := 0, name := "AΣ", type := .int .i32 }
def smallSigma : Property := { id := 1, name := "Aσ", type := .int .i32 }
def finalSigma : Property := { id := 2, name := "Aς", type := .int .i32 }
def sigmaPair : SchemaBuilder := { name := "S", properties := [capitalSigma, smallSigma] }
def finalPair : SchemaBuilder := { name := "S", properties := [capitalSigma, finalSigma] }
def yearsAlias : Property := { id := 3, name := "Age", aliasName := some "Years", type := .int .i32 }
def yearsName : Property := { id := 4, name := "YEARS", type := .int .i32 }

/-- `AΣ` and `Aσ`, equal ignoring case, build into one schema, where `Aσ` finds its own entry;
`AΣ` and `Aς`, not equal ignoring case, fail to build on `Aς`; without a sigma, an alias and a
name equal ignoring case share a key. -/
theorem sigma_spellings_against_comparer :
    (∃ s, sigmaPair.build 0 = .ok s ∧ s.find? "Aσ" = some smallSigma) ∧
      Comparer.byNameOrAliasIgnoreCase.same capitalSigma smallSigma = true ∧
    finalPair.build 0 = .error (.duplicateProperty "S" "Aς") ∧
      Comparer.byNameOrAliasIgnoreCase.same capitalSigma finalSigma = false ∧
    ¬ KeysApart yearsAlias yearsName := by
  have sigmas := build_and_find_by_lowercase_text sigmaPair 0
  obtain ⟨s, built⟩ := sigmas.1.mpr (by decide +kernel)
  have found := (sigmas.2.2.1 s built "Aσ" smallSigma).mpr
    ⟨List.mem_cons_of_mem _ List.mem_cons_self, "Aσ", List.mem_cons_self, rfl⟩
  have finals := build_and_find_by_lowercase_text finalPair 0
  have failure : finalPair.build 0 = .error (.duplicateProperty "S" "Aς") := by
    cases failed : finalPair.build 0 with
    | ok s => exact absurd (finals.1.mp ⟨s, failed⟩) (by decide +kernel)
    | error e =>
      -- the error names a name of the second entry, the only one with an earlier entry
      obtain ⟨j, p, placed, n, named, rfl, i, earlier, -⟩ := finals.2.1 e failed
      match j, earlier, placed with
      | 1, _, placed =>
        cases placed
        simp only [finalSigma, Property.names, Option.toList_none, List.mem_singleton] at named
        rw [named]
        rfl
  have years := (build_and_find_by_lowercase_text sigmaPair 0).2.2.2 yearsAlias yearsName
    (by decide +kernel) (by decide +kernel)
  refine ⟨⟨s, built, found⟩, by decide +kernel, failure, by decide +kernel, ?_⟩
  rw [years]
  decide +kernel

end SchemaBuilder

end Schemata
