import Mathlib
import SealedGrant.KeyRing.Store
import SealedGrant.Proofs.Json.Distinct
import SealedGrant.Proofs.KeyRing.Rotation

/-! # Keys that are stored and loaded again

The document of some keys is read back as those keys, in their order: their secrets are unpadded
text and their ids strings that are written in ASCII, and both are inverted
(`SealedGrant.KeyStore.read_write`). A ring that is made of stored keys is therefore the ring that
was made of the keys themselves. What is stored is never written again
(`SealedGrant.KeyStore.Look.leaves_some`), and a document that was made has no line end to convert
(`SealedGrant.KeyStore.withLineFeeds_write`), so whatever the first look at a writable place finds
or makes, all later looks find again (`SealedGrant.KeyStore.storage_keeps_keys`).
-/

namespace SealedGrant

/-! ## A written value has no line ends of its own -/

namespace Json

theorem return_not_mem_unitEscape (unit : ℕ) : '\r' ∉ unitEscape unit := by
  have digit (n : ℕ) : '\r' ≠ Bytes.hexDigit (n % 16) := by
    have small : n % 16 < 16 := Nat.mod_lt n (by norm_num)
    generalize n % 16 = m at small
    interval_cases m <;> decide
  simp [unitEscape, Text.hexDigits, digit]

theorem return_not_mem_charEscape (c : Char) : '\r' ∉ charEscape c := by
  unfold charEscape
  dsimp only
  split
  · exact return_not_mem_unitEscape _
  · exact List.not_mem_append (return_not_mem_unitEscape _) (return_not_mem_unitEscape _)

/-- A return is escaped, in every style. -/
theorem return_not_mem_writeChar (asciiOnly : Bool) (c : Char) :
    '\r' ∉ writeChar asciiOnly c := by
  unfold writeChar
  split_ifs with quote backslash newline back tab bell feed control wide
  · decide
  · decide
  · decide
  · decide
  · decide
  · decide
  · decide
  · exact return_not_mem_charEscape c
  · exact return_not_mem_charEscape c
  · simpa [eq_comm] using back

theorem return_not_mem_writeString (asciiOnly : Bool) (text : String) :
    '\r' ∉ writeString asciiOnly text := by
  simp [writeString, return_not_mem_writeChar]

theorem return_not_mem_number (n : Number) : '\r' ∉ n.write specialNames := by
  intro member
  cases finite : n.isFinite with
  | true => exact absurd (endsBare_write finite _ member) (by decide)
  | false =>
    cases n with
    | int n => cases finite
    | double d =>
      cases d with
      | finite negative mantissa exponent canonical => cases finite
      | infinite negative => cases negative <;> revert member <;> decide
      | nan => revert member; decide

section Write

variable {style : Style}

theorem return_not_mem_intercalate (comma : '\r' ∉ style.comma) {texts : List (List Char)}
    (absent : ∀ text ∈ texts, '\r' ∉ text) : '\r' ∉ style.comma.intercalate texts := by
  cases texts with
  | nil => simp [List.intercalate]
  | cons first others =>
    simp only [List.forall_mem_cons] at absent
    rw [intercalate_cons]
    refine List.not_mem_append absent.1 ?_
    simp only [List.mem_flatMap, List.mem_append, not_exists, not_and, not_or]
    exact fun text member => ⟨comma, absent.2 text member⟩

mutual

/-- **A written value holds no return**, unless its separators do. -/
theorem return_not_mem_write (comma : '\r' ∉ style.comma) (colon : '\r' ∉ style.colon)
    (value : Json) : '\r' ∉ write style value := by
  cases value with
  | null => simp [write]
  | bool value => cases value <;> simp [write]
  | number n => exact return_not_mem_number n
  | string text => exact return_not_mem_writeString style.asciiOnly text
  | array items =>
    have inside : '\r' ∉ style.comma.intercalate (writeItems style items) :=
      return_not_mem_intercalate comma (return_not_mem_writeItems comma colon items)
    simpa [write] using inside
  | object members =>
    have inside : '\r' ∉ style.comma.intercalate (writeMembers style members) :=
      return_not_mem_intercalate comma (return_not_mem_writeMembers comma colon members)
    simpa [write] using inside

theorem return_not_mem_writeItems (comma : '\r' ∉ style.comma) (colon : '\r' ∉ style.colon)
    (items : List Json) : ∀ text ∈ writeItems style items, '\r' ∉ text := by
  cases items with
  | nil => exact fun text member => nomatch member
  | cons item rest =>
    rw [writeItems, List.forall_mem_cons]
    exact ⟨return_not_mem_write comma colon item, return_not_mem_writeItems comma colon rest⟩

theorem return_not_mem_writeMembers (comma : '\r' ∉ style.comma) (colon : '\r' ∉ style.colon)
    (members : List (String × Json)) : ∀ text ∈ writeMembers style members, '\r' ∉ text := by
  cases members with
  | nil => exact fun text member => nomatch member
  | cons member rest =>
    obtain ⟨name, value⟩ := member
    rw [writeMembers, List.forall_mem_cons]
    refine ⟨List.not_mem_append (List.not_mem_append ?_ colon)
      (return_not_mem_write comma colon value), return_not_mem_writeMembers comma colon rest⟩
    exact return_not_mem_writeString style.asciiOnly name

end

end Write

end Json

namespace KeyStore

/-! ## Writing and reading -/

theorem readEntry_entry (key : SealingKey) : readEntry (entry key) = .ok key := by
  have parts : readEntry (entry key) = (do
      let secret ← (Base64.decodeUrl (Base64.encodeUrl key.secret)).mapError Error.secret
      (SealingKey.make key.id secret key.role.name).mapError Error.key) := rfl
  rw [parts, Base64.decodeUrl_encodeUrl]
  change (SealingKey.make key.id key.secret key.role.name).mapError Error.key = .ok key
  rw [SealingKey.make_self]
  rfl

theorem mapM_readEntry_entry (keys : List SealingKey) :
    (keys.map entry).mapM readEntry = .ok keys := by
  induction keys with
  | nil => rfl
  | cons key rest ih =>
    rw [List.map_cons, List.mapM_cons, readEntry_entry, ih]
    rfl

theorem readDocument_document {keys : List SealingKey} (nonempty : keys ≠ []) :
    readDocument (document keys) = .ok keys := by
  obtain ⟨key, rest, rfl⟩ := List.exists_cons_of_ne_nil nonempty
  exact mapM_readEntry_entry (key :: rest)

theorem distinct_entry (key : SealingKey) : Json.Distinct (entry key) := by
  have names : [ "kid", "key", "role"].Nodup := by decide
  exact ⟨names, trivial, trivial, trivial, trivial⟩

theorem distinct_document (keys : List SealingKey) : Json.Distinct (document keys) := by
  have items : Json.DistinctItems (keys.map entry) := by
    rw [Json.distinctItems_iff, List.forall_mem_map]
    exact fun key _ => distinct_entry key
  exact ⟨List.nodup_singleton _, items, trivial⟩

theorem allNumbers_document (holds : Number → Bool) (keys : List SealingKey) :
    (document keys).allNumbers holds = true := by
  have items : Json.allNumbersIn holds (keys.map entry) = true := by
    induction keys with
    | nil => rfl
    | cons key rest ih => exact ih
  simp [document, Json.allNumbers, Json.allNumbersOf, items]

/-- **Stored keys are read back**, all of them and in their order. -/
theorem read_write {keys : List SealingKey} (nonempty : keys ≠ []) :
    read (write keys) = .ok keys := by
  have parsed : Json.read .withSpecials (write keys) = .ok (document keys) := by
    rw [write, Json.read_render Json.Style.separates_spacedAscii _ (allNumbers_document _ keys),
      Json.settled_of_distinct _ (distinct_document keys)]
  rw [read, parsed]
  exact readDocument_document nonempty

/-- A stored document has no line end to convert. -/
theorem withLineFeeds_write (keys : List SealingKey) :
    Text.withLineFeeds (write keys) = write keys := by
  have absent : '\r' ∉ (document keys).write .spacedAscii :=
    Json.return_not_mem_write (by decide) (by decide) _
  rw [Text.withLineFeeds, write, Json.render, String.toList_ofList,
    Text.feedLines_of_not_mem absent]

end KeyStore

namespace KeyRing

/-! ## The ring of stored keys -/

/-- Keys with new and distinct ids can be added to a table. -/
theorem exists_addSecrets {keys : List SealingKey} {table : List (String × Bytes)}
    (fresh : ∀ key ∈ keys, table.lookup key.id = none)
    (distinct : (keys.map SealingKey.id).Nodup) : ∃ result, addSecrets table keys = .ok result := by
  induction keys generalizing table with
  | nil => exact ⟨table, rfl⟩
  | cons key rest ih =>
    simp only [List.forall_mem_cons] at fresh
    rw [List.map_cons, List.nodup_cons] at distinct
    simp only [addSecrets, fresh.1, Option.isSome_none, Bool.false_eq_true, ↓reduceIte]
    refine ih (fun later member => ?_) distinct.2
    have differs : (later.id == key.id) = false :=
      beq_eq_false_iff_ne.mpr fun same => distinct.1 (List.mem_map.mpr ⟨later, member, same⟩)
    rw [List.lookup_append, fresh.2 later member]
    simp [List.lookup_cons, differs]

/-- **Keys with distinct ids, one of them the current one, make a ring.** -/
theorem exists_ofKeys {keys : List SealingKey} {current : SealingKey}
    (one : (keys.filter fun key => key.role = .current) = [current])
    (distinct : (keys.map SealingKey.id).Nodup) :
    ∃ ring, ofKeys keys = .ok ring ∧ ring.current = current := by
  have fresh : ∀ key ∈ keys, ([] : List (String × Bytes)).lookup key.id = none := fun _ _ => rfl
  obtain ⟨table, added⟩ := exists_addSecrets fresh distinct
  refine ⟨⟨current, table⟩, ?_, rfl⟩
  rw [ofKeys, one, added]
  rfl

end KeyRing

namespace KeyStore

/-! ## Looking for stored keys -/

theorem isKeyId_generated {bytes : Bytes} (four : bytes.length = 4) :
    isKeyId ("sealer-" ++ Bytes.toHex bytes) = true := by
  have short := Utf8.length_encode_le ("sealer-" ++ Bytes.toHex bytes)
  rw [String.toList_append, List.length_append, Bytes.length_toHex, four] at short
  have nonempty : "sealer-" ++ Bytes.toHex bytes ≠ "" := by
    intro empty
    have chars := congrArg (fun text => text.toList.length) empty
    simp at chars
  have prefixed : "sealer-".toList.length = 7 := rfl
  simp only [isKeyId, Bool.and_eq_true, decide_eq_true_eq]
  exact ⟨nonempty, by omega⟩

/-- A fresh key can be made whenever random bytes come in the number that was asked for. -/
theorem exists_run_generate {source : RandomSource} (exact : RandomSource.Exact source)
    (supply : Supply) : ∃ key,
      (generate source none KeyRole.current.name).run supply =
        (.ok key, supply.afterDraw.afterDraw) ∧ key.role = .current := by
  have id_valid := isKeyId_generated (exact supply.draws 4)
  have secret_valid : isKeySecret (source supply.afterDraw.draws 32) = true := by
    rw [isKeySecret, exact]
    rfl
  refine ⟨⟨_, _, .current, id_valid, secret_valid⟩, ?_, rfl⟩
  simp only [generate, Draw.run_bind, Draw.run_drawBytes, Draw.run_pure, Draw.run_ofResult]
  rw [← SealingKey.make_self ⟨_, _, .current, id_valid, secret_valid⟩]

/-- One look for stored keys: what a fresh key is made of, and whether the place can be written
to. -/
structure Look where
  source : RandomSource
  supply : Supply
  writable : Bool

/-- What a look finds where a text is stored, or nothing. -/
def Look.finds (look : Look) (file : Option String) : Except Error Loaded :=
  ((load look.source file look.writable).run look.supply).1

/-- What is stored after a look; a look that fails leaves what was there. -/
def Look.leaves (look : Look) (file : Option String) : Option String :=
  match look.finds file with
  | .ok loaded => loaded.file
  | .error _ => file

/-- What is stored after looks, one after the other. -/
def fileAfter (file : Option String) (looks : List Look) : Option String :=
  looks.foldl (fun file look => look.leaves file) file

variable {look : Look} {file : Option String} {loaded : Loaded}

theorem Look.finds_some (look : Look) (stored : String) :
    look.finds (some stored) =
      (read (Text.withLineFeeds stored)).map fun keys => ⟨keys, some stored⟩ :=
  rfl

theorem Look.finds_of_read {stored : String} {keys : List SealingKey}
    (opened : read (Text.withLineFeeds stored) = .ok keys) (look : Look) :
    look.finds (some stored) = .ok ⟨keys, some stored⟩ := by
  rw [look.finds_some, opened]
  rfl

/-- **What is stored stays**, whether or not it can be read and the place be written to. -/
theorem Look.leaves_some (look : Look) (stored : String) :
    look.leaves (some stored) = some stored := by
  rw [leaves, finds_some]
  cases read (Text.withLineFeeds stored) <;> rfl

theorem fileAfter_some (stored : String) (looks : List Look) :
    fileAfter (some stored) looks = some stored := by
  induction looks with
  | nil => rfl
  | cons look rest ih =>
    rw [fileAfter, List.foldl_cons, look.leaves_some]
    exact ih

/-- What a look at an empty place comes to: the key that was made, or why none was. -/
theorem Look.finds_none (look : Look) :
    look.finds none =
      (((generate look.source none KeyRole.current.name).run look.supply).1.mapError Error.key).map
        fun key => ⟨[key], if look.writable then some (write [key]) else none⟩ := by
  rw [finds, load, Draw.run_bind, Draw.run_adapt]
  cases (generate look.source none KeyRole.current.name).run look.supply with
  | mk result later => cases result <;> rfl

/-- Where nothing is stored, a look makes one current key and stores it if it can. -/
theorem Look.exists_finds_none (look : Look) (exact : RandomSource.Exact look.source) :
    ∃ key : SealingKey, key.role = .current ∧
      look.finds none = .ok ⟨[key], if look.writable then some (write [key]) else none⟩ := by
  obtain ⟨key, made, role⟩ := exists_run_generate exact look.supply
  refine ⟨key, role, ?_⟩
  rw [look.finds_none, made]
  rfl

/-- What a look found at a writable place can be read there. -/
theorem Look.exists_stored_of_finds (writable : look.writable = true)
    (found : look.finds file = .ok loaded) :
    ∃ stored, loaded.file = some stored ∧
      read (Text.withLineFeeds stored) = .ok loaded.keys := by
  cases file with
  | some text =>
    rw [look.finds_some] at found
    cases opened : read (Text.withLineFeeds text) with
    | error cause =>
      rw [opened] at found
      cases found
    | ok keys =>
      rw [opened] at found
      cases found
      exact ⟨text, rfl, opened⟩
  | none =>
    rw [look.finds_none, writable] at found
    cases made : (generate look.source none KeyRole.current.name).run look.supply with
    | mk result later =>
      rw [made] at found
      cases result with
      | error cause => cases found
      | ok key =>
        cases found
        refine ⟨_, rfl, ?_⟩
        rw [withLineFeeds_write]
        exact read_write (List.cons_ne_nil key [])

/-! ## Nothing is lost -/

/-- **Storing keys loses none of them.**
* The document of any keys, if there are any, is read as these keys in their order.
* Keys with distinct ids, one of them the current one, make a ring. The keys that are read from
  their document make a ring again, with the same current key; it opens whatever the first one
  sealed, until its time is up, and the first one seals until every time that fits eight bytes.
* A look at a writable place where nothing is stored makes a current key. Whatever the first look at
  a writable place finds, all later looks find. What is stored when a look ends, what was stored
  before it included, stays as it is. -/
theorem storage_keeps_keys :
    (∀ keys : List SealingKey, keys ≠ [] → read (write keys) = .ok keys) ∧
    (∀ (keys : List SealingKey) (current : SealingKey),
      (keys.filter fun key => key.role = .current) = [current] →
      (keys.map SealingKey.id).Nodup →
      ∃ ring stored rebuilt, KeyRing.ofKeys keys = .ok ring ∧ read (write keys) = .ok stored ∧
        KeyRing.ofKeys stored = .ok rebuilt ∧ ring.current = current ∧
        rebuilt.current = ring.current ∧
        ∀ (random : RandomSource) (plain : Bytes) (supply : Supply),
          (∀ expiry : ℕ, expiry < KeyRing.expiryLimit → ∃ text,
            (ring.wrap random plain (.int expiry)).run supply = (.ok text, supply.afterDraw)) ∧
          (RandomSource.Exact random → ∀ (expiry : ℤ) (text : String) (last : Supply),
            (ring.wrap random plain (.int expiry)).run supply = (.ok text, last) →
            ∀ skew now : Number, (Number.add (.int expiry) skew).le now = false →
              rebuilt.unwrap skew now text = .ok plain)) ∧
    ∀ first : Look, first.writable = true →
      (RandomSource.Exact first.source → ∃ key : SealingKey, key.role = .current ∧
        first.finds none = .ok ⟨[key], some (write [key])⟩) ∧
      ∀ (file : Option String) (loaded : Loaded), first.finds file = .ok loaded →
        (∀ stored, file = some stored → loaded.file = some stored) ∧
        ∀ looks : List Look, fileAfter loaded.file looks = loaded.file ∧
          ∀ look : Look, look.finds (fileAfter loaded.file looks) = .ok loaded := by
  refine ⟨fun keys nonempty => read_write nonempty, ?_, ?_⟩
  · intro keys current one distinct
    obtain ⟨ring, made, currentOf⟩ := KeyRing.exists_ofKeys one distinct
    have nonempty : keys ≠ [] := by
      rintro rfl
      cases one
    refine ⟨ring, keys, ring, made, read_write nonempty, made, currentOf, rfl, ?_⟩
    intro random plain supply
    refine ⟨fun expiry small =>
      (KeyRing.sound_of_ofKeys made).exists_wrap random plain small supply, ?_⟩
    intro exact expiry text last closed skew now early
    obtain ⟨secret, seconds, bound, rfl, opens⟩ := KeyRing.opens_of_wrap exact closed
    exact KeyRing.unwrap_eq_ok_iff.mpr ⟨_, secret, seconds, bound, opens, early⟩
  · intro first writable
    constructor
    · intro exact
      simpa only [writable, if_true] using first.exists_finds_none exact
    · intro file loaded found
      constructor
      · rintro text rfl
        have left := first.leaves_some text
        rwa [Look.leaves, found] at left
      · intro looks
        obtain ⟨stored, kept, opened⟩ := Look.exists_stored_of_finds writable found
        have same : loaded = ⟨loaded.keys, some stored⟩ := by rw [← kept]
        rw [kept, fileAfter_some stored looks]
        refine ⟨rfl, fun look => ?_⟩
        rw [Look.finds_of_read opened look, ← same]

/-- An older key, whose id is written with escaped halves. -/
def olderKey : SealingKey :=
  ⟨"schlüssel-𝄞", List.replicate 32 7, .decryptOnly, by decide, by decide⟩

/-- A look that can write. -/
def sampleLook : Look := ⟨Sample.context.random, .fresh, true⟩

/-- What a ring of two keys sealed is opened by the ring of the stored keys, and a key that was made
is found again. -/
theorem storage_keeps_keys_sample : ∃ ring stored rebuilt text last,
    KeyRing.ofKeys [olderKey, Sample.key] = .ok ring ∧
    read (write [olderKey, Sample.key]) = .ok stored ∧ KeyRing.ofKeys stored = .ok rebuilt ∧
    (ring.wrap Sample.context.random [1, 2] (.int 1700000000)).run .fresh = (.ok text, last) ∧
    rebuilt.unwrap 60 1700000059 text = .ok [1, 2] ∧
    ∃ loaded, sampleLook.finds none = .ok loaded ∧
      sampleLook.finds (fileAfter loaded.file [sampleLook]) = .ok loaded := by
  obtain ⟨-, rings, looks⟩ := storage_keeps_keys
  obtain ⟨ring, stored, rebuilt, made, found, again, -, -, sealing⟩ :=
    rings [olderKey, Sample.key] Sample.key rfl (by decide)
  obtain ⟨closes, opens⟩ := sealing Sample.context.random [1, 2] .fresh
  obtain ⟨text, closed⟩ := closes 1700000000 (by decide)
  obtain ⟨makes, keeps⟩ := looks sampleLook rfl
  obtain ⟨key, -, fresh⟩ := makes Sample.exact_random
  refine ⟨ring, stored, rebuilt, text, _, made, found, again, closed, ?_, _, fresh, ?_⟩
  · exact opens Sample.exact_random 1700000000 text _ closed 60 1700000059 rfl
  · exact ((keeps none _ fresh).2 [sampleLook]).2 sampleLook

end KeyStore
end SealedGrant
