import Mathlib.Data.List.Infix
import Upkeep.Load

/-! Passwords in URIs. A URI that gives a password is made of a scheme, a user, the password and a
host, and masking it replaces the password and nothing else, whatever characters the password has;
a URI without one stays as it is. Masking finds the password by the mark that ends the scheme. So
where a database is refused for a URI, its password is kept just if that mark stands before it. -/
namespace Upkeep

/-- A text holds the mark that ends the scheme of a URI. -/
def HasSchemeMark (text : String) : Prop :=
  [':', '/', '/'] <:+: text.toList

instance : DecidablePred HasSchemeMark := fun text =>
  inferInstanceAs (Decidable ([':', '/', '/'] <:+: text.toList))

variable {scheme user password host rest : String} {uri : String}

/-- A URI that gives a password. -/
def uriOf (scheme user password host : String) : String :=
  scheme ++ "://" ++ user ++ ":" ++ password ++ "@" ++ host

/-- No mark begins in a text that holds none and ends behind it, unless it ends with a part of one. -/
theorem not_infix_append_mark (plain : ¬ HasSchemeMark scheme) :
    ¬ [':', '/', '/'] <:+: scheme.toList ++ [':', '/'] := by
  rintro ⟨before, after, joined⟩
  rcases List.eq_nil_or_concat after with rfl | ⟨after, last, rfl⟩
  · -- A mark at the end would have two slashes there.
    simpa using congrArg (List.reverse · |>.take 2) joined
  · rcases List.eq_nil_or_concat after with rfl | ⟨after, last', rfl⟩
    · simpa using congrArg (List.reverse · |>.take 2) joined
    · refine plain ⟨before, after, ?_⟩
      simpa using congrArg (List.reverse · |>.drop 2 |>.reverse) joined

/-- The scheme of a URI ends at its first mark. -/
theorem cutFirst_scheme (plain : ¬ HasSchemeMark scheme) :
    Text.cutFirst [':', '/', '/'] (scheme ++ "://" ++ rest).toList =
      some (scheme.toList, rest.toList) := by
  rw [String.toList_append, String.toList_append]
  exact Text.cutFirst_append (List.cons_ne_nil _ _) (not_infix_append_mark plain)

/-- The password is replaced, whatever it is. -/
theorem maskUri_uriOf (plain : ¬ HasSchemeMark scheme) (name : ':' ∉ user.toList)
    (place : '@' ∉ host.toList) :
    maskUri (uriOf scheme user password host) = uriOf scheme user "****" host := by
  have scheme_cut : Text.cutFirst [':', '/', '/'] (uriOf scheme user password host).toList =
      some (scheme.toList, (user ++ ":" ++ password ++ "@" ++ host).toList) := by
    rw [← cutFirst_scheme plain]
    simp only [uriOf, String.append_assoc]
  have host_cut : Text.cutLast '@' (user ++ ":" ++ password ++ "@" ++ host).toList =
      some ((user ++ ":" ++ password).toList, host.toList) := by
    rw [String.toList_append, String.toList_append, List.append_assoc]
    exact Text.cutLast_append place
  have user_cut : Text.cutFirst [':'] (user ++ ":" ++ password).toList =
      some (user.toList, password.toList) := by
    rw [String.toList_append, String.toList_append, List.append_assoc]
    exact Text.cutFirst_singleton name
  simp only [maskUri, scheme_cut, host_cut, user_cut]
  apply String.toList_injective
  simp [uriOf]

/-- A URI without the mark of a scheme stays as it is. -/
theorem maskUri_of_not_hasSchemeMark (plain : ¬ HasSchemeMark uri) : maskUri uri = uri := by
  rw [maskUri, Text.cutFirst_eq_none_iff.mpr plain]

/-- A URI with no host set apart stays as it is. -/
theorem maskUri_of_not_mem (plain : ¬ HasSchemeMark scheme) (place : '@' ∉ rest.toList) :
    maskUri (scheme ++ "://" ++ rest) = scheme ++ "://" ++ rest := by
  simp only [maskUri, cutFirst_scheme plain, Text.cutLast_eq_none_iff.mpr place]

/-- A URI whose user has no password stays as it is. -/
theorem maskUri_of_user (plain : ¬ HasSchemeMark scheme) (name : ':' ∉ user.toList)
    (place : '@' ∉ host.toList) :
    maskUri (scheme ++ "://" ++ user ++ "@" ++ host) = scheme ++ "://" ++ user ++ "@" ++ host := by
  have scheme_cut : Text.cutFirst [':', '/', '/'] (scheme ++ "://" ++ user ++ "@" ++ host).toList =
      some (scheme.toList, (user ++ "@" ++ host).toList) := by
    rw [← cutFirst_scheme plain]
    simp only [String.append_assoc]
  have host_cut : Text.cutLast '@' (user ++ "@" ++ host).toList = some (user.toList, host.toList) := by
    rw [String.toList_append, String.toList_append, List.append_assoc]
    exact Text.cutLast_append place
  have no_colon : ¬ [':'] <:+: user.toList := fun inside => name (inside.subset List.mem_cons_self)
  simp only [maskUri, scheme_cut, host_cut, Text.cutFirst_eq_none_iff.mpr no_colon]

/-- A URI that masking changes gives a password. -/
theorem exists_uriOf_of_maskUri_ne (changed : maskUri uri ≠ uri) :
    ∃ scheme user password host, ¬ HasSchemeMark scheme ∧ ':' ∉ user.toList ∧ '@' ∉ host.toList ∧
      uri = uriOf scheme user password host := by
  unfold maskUri at changed
  split at changed
  · exact absurd rfl changed
  · rename_i scheme rest scheme_cut
    split at changed
    · exact absurd rfl changed
    · rename_i userInfo host host_cut
      split at changed
      · exact absurd rfl changed
      · rename_i user password user_cut
        refine ⟨.ofList scheme, .ofList user, .ofList password, .ofList host, ?_, ?_, ?_, ?_⟩
        · rw [HasSchemeMark, String.toList_ofList]
          exact Text.not_infix_before_cutFirst (List.cons_ne_nil _ _) scheme_cut
        · rw [String.toList_ofList]
          intro inside
          exact Text.not_infix_before_cutFirst (List.cons_ne_nil _ _) user_cut
            ((List.singleton_infix_iff _ _).mpr inside)
        · rw [String.toList_ofList]
          exact Text.not_mem_after_cutLast host_cut
        · apply String.toList_injective
          rw [Text.cutFirst_join scheme_cut, Text.cutLast_join host_cut, Text.cutFirst_join user_cut]
          simp [uriOf]

/-- A masked URI has no password left to mask. -/
theorem maskUri_maskUri (uri : String) : maskUri (maskUri uri) = maskUri uri := by
  by_cases changed : maskUri uri = uri
  · rw [changed, changed]
  · obtain ⟨scheme, user, password, host, plain, name, place, rfl⟩ := exists_uriOf_of_maskUri_ne changed
    rw [maskUri_uriOf plain name place, maskUri_uriOf plain name place]

/-- Masking replaces a password of any characters and nothing else. A URI without the mark of a scheme,
without a host that is set apart or without a password stays as it is. To mask once more changes
nothing. -/
theorem maskUri_replaces_password (scheme user password host : String)
    (plain : ¬ HasSchemeMark scheme) (name : ':' ∉ user.toList) (place : '@' ∉ host.toList) :
    maskUri (scheme ++ "://" ++ user ++ ":" ++ password ++ "@" ++ host) =
        scheme ++ "://" ++ user ++ ":****@" ++ host ∧
      (∀ uri, ¬ HasSchemeMark uri → maskUri uri = uri) ∧
      (∀ rest, '@' ∉ rest.toList → maskUri (scheme ++ "://" ++ rest) = scheme ++ "://" ++ rest) ∧
      maskUri (scheme ++ "://" ++ user ++ "@" ++ host) = scheme ++ "://" ++ user ++ "@" ++ host ∧
      ∀ uri, maskUri (maskUri uri) = maskUri uri := by
  refine ⟨(maskUri_uriOf plain name place).trans ?_, fun uri => maskUri_of_not_hasSchemeMark,
    fun rest => maskUri_of_not_mem plain, maskUri_of_user plain name place, maskUri_maskUri⟩
  apply String.toList_injective
  simp [uriOf]

/-- A password with all the characters that separate the parts of a URI. -/
theorem maskUri_replaces_separators :
    maskUri ("postgresql" ++ "://" ++ "vault" ++ ":" ++ "p@:/x://y@z" ++ "@" ++ "db-0:5432/vault") =
      "postgresql" ++ "://" ++ "vault" ++ ":****@" ++ "db-0:5432/vault" :=
  (maskUri_replaces_password "postgresql" "vault" "p@:/x://y@z" "db-0:5432/vault"
    (by decide) (by decide) (by decide)).1

namespace Database

variable {database : Database} {fault : LoadFault} {lead : String}

/-- A database is refused for its first URI of another kind. -/
theorem checked_eq_error : database.checked = .error fault ↔
    ∃ before uri after, database.uris = before ++ uri :: after ∧
      (∀ other ∈ before, hasDatabaseScheme other = true) ∧ hasDatabaseScheme uri = false ∧
        fault = .foreignUri uri := by
  have first (uri : String) : database.firstForeign? = some uri ↔
      hasDatabaseScheme uri = false ∧ ∃ before after, database.uris = before ++ uri :: after ∧
        ∀ other ∈ before, hasDatabaseScheme other = true := by
    simp only [firstForeign?, List.find?_eq_some_iff_append, Bool.not_eq_true', Bool.not_not]
  have refused : database.checked = .error fault ↔
      ∃ uri, database.firstForeign? = some uri ∧ fault = .foreignUri uri := by
    unfold checked check
    cases database.firstForeign? <;> simp [Except.mapError, eq_comm]
  rw [refused]
  constructor
  · rintro ⟨uri, found, rfl⟩
    obtain ⟨foreign, before, after, listed, accepted⟩ := (first uri).mp found
    exact ⟨before, uri, after, listed, accepted, foreign, rfl⟩
  · rintro ⟨before, uri, after, listed, accepted, foreign, rfl⟩
    exact ⟨uri, (first uri).mpr ⟨foreign, before, after, listed, accepted⟩, rfl⟩

/-- A database is refused for a URI, be it given or described by a file. -/
inductive Refused (uri : String) : LoadFault → Prop
  | given (database : Database) (refused : database.checked = .error (.foreignUri uri)) :
      Refused uri (.foreignUri uri)
  | loaded (disk : Disk) (path : Path) (refused : Database.load disk path = .error (.foreignUri uri)) :
      Refused uri (.foreignUri uri)

theorem Refused.eq {uri : String} (refused : Refused uri fault) : fault = .foreignUri uri := by
  cases refused <;> rfl

/-- Behind the mark of a scheme any two passwords are masked alike. -/
theorem maskUri_of_hasSchemeMark (marked : HasSchemeMark lead) (place : '@' ∉ host.toList)
    (p₁ p₂ : String) :
    maskUri (lead ++ ":" ++ p₁ ++ "@" ++ host) = maskUri (lead ++ ":" ++ p₂ ++ "@" ++ host) := by
  obtain ⟨scheme, rest, scheme_cut⟩ := Text.exists_cutFirst marked
  have plain : ¬ HasSchemeMark (.ofList scheme) := by
    rw [HasSchemeMark, String.toList_ofList]
    exact Text.not_infix_before_cutFirst (List.cons_ne_nil _ _) scheme_cut
  -- What follows the mark may hold a colon too, and the first one ends the user.
  obtain ⟨user, more, user_cut⟩ : ∃ user more, Text.cutFirst [':'] (rest ++ [':']) = some (user, more) :=
    Text.exists_cutFirst (List.suffix_append rest [':']).isInfix
  have name : ':' ∉ (String.ofList user).toList := by
    rw [String.toList_ofList]
    intro inside
    exact Text.not_infix_before_cutFirst (List.cons_ne_nil _ _) user_cut
      ((List.singleton_infix_iff _ _).mpr inside)
  have parts (password : String) : lead ++ ":" ++ password ++ "@" ++ host =
      uriOf (.ofList scheme) (.ofList user) (.ofList more ++ password) host := by
    apply String.toList_injective
    have followed := congrArg (· ++ (password ++ "@" ++ host).toList) (Text.cutFirst_join user_cut)
    simpa [uriOf, Text.cutFirst_join scheme_cut] using followed
  rw [parts, parts, maskUri_uriOf plain name place, maskUri_uriOf plain name place]

/-- A password without slashes completes no mark. -/
theorem not_hasSchemeMark_append (unmarked : ¬ HasSchemeMark lead) (flat : '/' ∉ password.toList) :
    ¬ HasSchemeMark (lead ++ ":" ++ password) := by
  have slashless : '/' ∉ ':' :: password.toList := by simp [flat]
  have whole : (lead ++ ":" ++ password).toList = lead.toList ++ ':' :: password.toList := by simp
  rw [HasSchemeMark, whole, List.infix_append_iff]
  rintro (before | after | ⟨x, y, joined, ending, opening⟩)
  · exact unmarked before
  · exact slashless (after.subset (by decide))
  · rcases List.eq_nil_or_concat y with rfl | ⟨front, last, rfl⟩
    · rw [List.append_nil] at joined
      rw [← joined] at ending
      exact unmarked ending.isInfix
    · obtain rfl : '/' = last := by simpa using congrArg List.getLast? joined
      exact slashless (opening.subset (by simp))

/-- Without the mark of a scheme before it, a password without slashes is shown. -/
theorem maskUri_of_not_hasSchemeMark_before (unmarked : ¬ HasSchemeMark lead) (place : '@' ∉ host.toList)
    (flat : '/' ∉ password.toList) :
    maskUri (lead ++ ":" ++ password ++ "@" ++ host) = lead ++ ":" ++ password ++ "@" ++ host := by
  by_contra changed
  obtain ⟨scheme, user, secret, host', -, -, place', same⟩ := exists_uriOf_of_maskUri_ne changed
  -- Both hosts stand behind the last `@`.
  have cut : Text.cutLast '@' (lead ++ ":" ++ password ++ "@" ++ host).toList =
      some ((lead ++ ":" ++ password).toList, host.toList) := by
    rw [String.toList_append, String.toList_append, List.append_assoc]
    exact Text.cutLast_append place
  have cut' : Text.cutLast '@' (uriOf scheme user secret host').toList =
      some ((scheme ++ "://" ++ user ++ ":" ++ secret).toList, host'.toList) := by
    rw [uriOf, String.toList_append, String.toList_append, List.append_assoc]
    exact Text.cutLast_append place'
  rw [same, cut', Option.some.injEq, Prod.mk.injEq] at cut
  apply not_hasSchemeMark_append unmarked flat
  rw [HasSchemeMark, ← cut.1]
  refine ⟨scheme.toList, (user ++ ":" ++ secret).toList, ?_⟩
  simp

/-- A text without the mark of a scheme before its `@` has no scheme of the database. -/
theorem hasDatabaseScheme_of_not_hasSchemeMark (unmarked : ¬ HasSchemeMark lead) :
    hasDatabaseScheme (lead ++ "@" ++ host) = false := by
  have foreign (scheme : String) (marked : HasSchemeMark scheme) (plain : '@' ∉ scheme.toList) :
      (lead ++ "@" ++ host).startsWith scheme = false := by
    rw [← Bool.not_eq_true, String.startsWith_string_iff]
    intro starts
    have before : lead.toList ++ ['@'] <+: (lead ++ "@" ++ host).toList :=
      ⟨host.toList, by simp⟩
    rcases List.prefix_or_prefix_of_prefix starts before with inside | beyond
    · rcases List.prefix_concat_iff.mp inside with whole | inside
      · exact plain (whole ▸ by simp)
      · exact unmarked (marked.trans inside.isInfix)
    · exact plain (beyond.subset (by simp))
  rw [hasDatabaseScheme, foreign "postgres://" (by decide) (by decide),
    foreign "postgresql://" (by decide) (by decide)]
  rfl

theorem message_foreignUri (uri : String) : (LoadFault.foreignUri uri).message =
    "Invalid database URI '" ++ maskUri uri ++ "': expected postgres:// or postgresql:// scheme" :=
  rfl

theorem chain_foreignUri (uri : String) :
    (LoadFault.foreignUri uri).chain = [(LoadFault.foreignUri uri).message] :=
  rfl

/-- The texts of the faults by which a database is refused for a URI say the same of any two passwords
just if the mark of a scheme stands before the password. -/
theorem refusals_keep_password_iff (lead user host : String) (place : '@' ∉ host.toList) :
    (∀ (p₁ p₂ : String) (f₁ f₂ : LoadFault), Refused (lead ++ user ++ ":" ++ p₁ ++ "@" ++ host) f₁ →
        Refused (lead ++ user ++ ":" ++ p₂ ++ "@" ++ host) f₂ →
          f₁.message = f₂.message ∧ f₁.chain = f₂.chain) ↔
      HasSchemeMark (lead ++ user) := by
  constructor
  · intro alike
    by_contra unmarked
    have shown (password : String) (flat : '/' ∉ password.toList) :
        Refused (lead ++ user ++ ":" ++ password ++ "@" ++ host)
            (.foreignUri (lead ++ user ++ ":" ++ password ++ "@" ++ host)) ∧
          maskUri (lead ++ user ++ ":" ++ password ++ "@" ++ host) =
            lead ++ user ++ ":" ++ password ++ "@" ++ host :=
      ⟨.given ⟨_, []⟩ (checked_eq_error.mpr ⟨[], _, [], rfl, List.forall_mem_nil _,
        hasDatabaseScheme_of_not_hasSchemeMark (not_hasSchemeMark_append unmarked flat), rfl⟩),
        maskUri_of_not_hasSchemeMark_before unmarked place flat⟩
    obtain ⟨first, first_shown⟩ := shown "a" (by decide)
    obtain ⟨second, second_shown⟩ := shown "b" (by decide)
    have told := (alike "a" "b" _ _ first second).1
    rw [message_foreignUri, message_foreignUri, first_shown, second_shown] at told
    have same := (String.append_right_inj _).mp ((String.append_left_inj _).mp told)
    rw [String.append_left_inj, String.append_left_inj, String.append_right_inj] at same
    exact absurd same (by decide)
  · intro marked p₁ p₂ f₁ f₂ first second
    rw [first.eq, second.eq, chain_foreignUri, chain_foreignUri, message_foreignUri, message_foreignUri,
      maskUri_of_hasSchemeMark marked place p₁ p₂]
    exact ⟨rfl, rfl⟩

/-- A disk with a file that describes a database of another kind. -/
def foreignDisk : Disk :=
  (∅ : Disk).put ⟨false, ["db.yaml"]⟩
    (.file 0o644 "primary: postgres://vault:pw@db-0\nstandbys: ['mysql://vault:p@ss:w@db/vault']\n".toUTF8)

/-- A password in a file and one that is given are told alike. -/
theorem refusals_keep_two_passwords :
    Refused ("mysql://" ++ "vault" ++ ":" ++ "p@ss:w" ++ "@" ++ "db/vault")
        (.foreignUri "mysql://vault:p@ss:w@db/vault") ∧
      Refused ("mysql://" ++ "vault" ++ ":" ++ "hunter2" ++ "@" ++ "db/vault")
        (.foreignUri "mysql://vault:hunter2@db/vault") ∧
      (LoadFault.foreignUri "mysql://vault:p@ss:w@db/vault").message =
        (LoadFault.foreignUri "mysql://vault:hunter2@db/vault").message := by
  have first : Refused ("mysql://" ++ "vault" ++ ":" ++ "p@ss:w" ++ "@" ++ "db/vault")
      (.foreignUri "mysql://vault:p@ss:w@db/vault") :=
    .loaded foreignDisk ⟨"db.yaml"⟩ (by decide +kernel)
  have second : Refused ("mysql://" ++ "vault" ++ ":" ++ "hunter2" ++ "@" ++ "db/vault")
      (.foreignUri "mysql://vault:hunter2@db/vault") :=
    .given ⟨"mysql://vault:hunter2@db/vault", []⟩ (by decide +kernel)
  have marked : HasSchemeMark ("mysql://" ++ "vault") := by decide
  have alike := (refusals_keep_password_iff "mysql://" "vault" "db/vault" (by decide)).mpr marked
  exact ⟨first, second, (alike _ _ _ _ first second).1⟩

/-- Without a scheme, the text of a refusal shows the password. -/
theorem refusal_shows_password :
    Refused ("" ++ "vault" ++ ":" ++ "hunter2" ++ "@" ++ "db/vault") (.foreignUri "vault:hunter2@db/vault") ∧
      Refused ("" ++ "vault" ++ ":" ++ "letmein" ++ "@" ++ "db/vault") (.foreignUri "vault:letmein@db/vault") ∧
      (LoadFault.foreignUri "vault:hunter2@db/vault").message =
        "Invalid database URI 'vault:hunter2@db/vault': expected postgres:// or postgresql:// scheme" ∧
      (LoadFault.foreignUri "vault:hunter2@db/vault").message ≠
        (LoadFault.foreignUri "vault:letmein@db/vault").message := by
  exact ⟨.given ⟨"vault:hunter2@db/vault", []⟩ (by decide +kernel),
    .given ⟨"vault:letmein@db/vault", []⟩ (by decide +kernel), by decide +kernel, by decide +kernel⟩

end Database

end Upkeep
