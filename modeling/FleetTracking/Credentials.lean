import FleetTracking.Operations
import FleetTracking.Services.Auth
import FleetTracking.Schemas

/-!
# The credential store

Seen from `authenticate_user`, the users table is a store of e-mails and passwords.
`lastPassword` says, from the calls of a run alone, which password a user was given last;
`KnowsPasswords` ties the hashes in the table to it and is kept by every call.
`credential_store` is the law of the store.
-/

namespace FleetTracking

open Relational Python Pydantic

section

variable (E : Engine) (a : Ambient) (db : DB)

/-- The password that the call sets for the user, if it succeeds and sets one. -/
def Call.newPassword (c : Call) (userId : Int) : Option String :=
  match c with
  | createUser data =>
      match FleetTracking.createUser E db (a.hashPassword 0) a.now data with
      | .ok (user, _) => if userId = user.id then some data.password.1 else none
      | .error _ => none
  | updateUser k data =>
      match (updateUser k data).perform E a db with
      | .ok _ => if userId = k then data.password.toOption.map Subtype.val else none
      | .error _ => none
  | _ => none

/-- The password that the run sets last for the user. -/
def lastPassword : DB → List (Ambient × Call) → Int → Option String
  | _, [], _ => none
  | db, (a, c) :: calls, userId =>
      (lastPassword (c.after E a db) calls userId).or (c.newPassword E a db userId)

end

section

variable {E : Engine} {a : Ambient} {db db' : DB} {c : Call} {calls : List (Ambient × Call)}
  {verifyPassword : String → String → Bool} {known : Int → Option String}

/-- What the hasher promises: a password verifies against its own hashes alone. -/
def Verifies (verifyPassword : String → String → Bool) (a : Ambient) : Prop :=
  ∀ salt password password',
    verifyPassword password (a.hashPassword salt password') = true ↔ password = password'

/-- Each user's hash verifies the known password and no other. -/
def KnowsPasswords (verifyPassword : String → String → Bool) (known : Int → Option String)
    (db : DB) : Prop :=
  ∀ u ∈ db.users.toTable, ∀ password,
    verifyPassword password u.hashedPassword = true ↔ known u.id = some password

/-! ## One call -/

/-- A new user has the password it was created with. -/
theorem createUser_eq_ok {hashPassword : String → String} {now : Int} {data : UserCreate}
    {row : User} (done : createUser E db hashPassword now data = .ok (row, db')) :
    row.id = db.users.next ∧ row.hashedPassword = hashPassword data.password.1 ∧
      ∀ u ∈ db'.users.toTable, u ∈ db.users.toTable ∨ u = row := by
  unfold createUser at done
  split at done
  · split at done
    · cases done
    · obtain ⟨rfl, rfl⟩ := Engine.insertUserRow_eq_ok done
      exact ⟨rfl, rfl, fun u member => Serial.mem_insert.mp member⟩
  · cases done

/-- An updated user has the new password, if one is given. -/
theorem updateUser_eq_ok {hashPassword : String → String} {user row : User} {data : UserUpdate}
    (loaded : db.users.get user.id = some user)
    (done : updateUser E db hashPassword user data = .ok (row, db')) :
    row.id = user.id ∧
      row.hashedPassword =
        ((data.password.toOption.map Subtype.val).map hashPassword).getD user.hashedPassword ∧
      ∀ u ∈ db'.users.toTable, (u ∈ db.users.toTable ∧ u.id ≠ user.id) ∨ u = row := by
  obtain ⟨same, _, leads⟩ := updateUser_edit loaded done
  refine ⟨same, ?_, fun u member => ?_⟩
  · unfold updateUser at done
    split at done
    · cases done
    · obtain ⟨_, _, out⟩ := map_eq_ok.mp done
      cases out
      cases data.password <;> rfl
  · rw [leads] at member
    rcases Table.mem_put.mp member with ⟨old, other⟩ | ⟨new, _⟩
    · exact .inl ⟨old, same ▸ other⟩
    · exact .inr new

/-- The other edits leave ids and hashes alone. -/
theorem Edit.apply_hashes {e : Edit} (allowed : e.Allowed db) (added : ∀ u, e ≠ .addUser u)
    (changed : ∀ u, e ≠ .setUser u) :
    ∀ u ∈ (e.apply db).users.toTable, ∃ old ∈ db.users.toTable,
      old.id = u.id ∧ old.hashedPassword = u.hashedPassword := by
  have put {new old : User} (loaded : db.users.get new.id = some old)
      (hash : old.hashedPassword = new.hashedPassword) :
      ∀ u ∈ (db.users.put new).toTable, ∃ old ∈ db.users.toTable,
        old.id = u.id ∧ old.hashedPassword = u.hashedPassword := by
    intro u member
    rcases Table.mem_put.mp member with ⟨member, _⟩ | ⟨rfl, _⟩
    · exact ⟨u, member, rfl, rfl⟩
    · obtain ⟨member, same⟩ := Table.get_eq_some.mp loaded
      exact ⟨old, member, same, hash⟩
  cases e with
  | addUser u => exact absurd rfl (added u)
  | setUser u => exact absurd rfl (changed u)
  | dropUser userId => exact fun u member => ⟨u, (Table.mem_erase.mp member).1, rfl, rfl⟩
  | unassign u => exact put allowed rfl
  | assign u routeId vehicleId => exact put allowed.1 rfl
  | wipe => exact fun u member => (Table.not_mem_empty member).elim
  | _ => exact fun u member => ⟨u, member, rfl, rfl⟩

theorem KnowsPasswords.of_hashes (knows : KnowsPasswords verifyPassword known db)
    (hashes : ∀ u ∈ db'.users.toTable, ∃ old ∈ db.users.toTable,
      old.id = u.id ∧ old.hashedPassword = u.hashedPassword) :
    KnowsPasswords verifyPassword known db' := by
  intro u member password
  obtain ⟨old, stored, same, hash⟩ := hashes u member
  rw [← same, ← hash]
  exact knows old stored password

/-- A call that neither creates nor updates a user. -/
theorem KnowsPasswords.other (knows : KnowsPasswords verifyPassword known db)
    (creates : ∀ data, c ≠ .createUser data) (updates : ∀ k data, c ≠ .updateUser k data) :
    KnowsPasswords verifyPassword known (c.after E a db) := by
  rcases c.after_edits E a db with same | ⟨e, makes, allowed, leads⟩
  · rwa [same]
  · rw [leads]
    refine knows.of_hashes (e.apply_hashes allowed ?_ ?_)
    · rintro u rfl
      cases c with
      | createUser data => exact creates data rfl
      | _ => exact makes
    · rintro u rfl
      cases c with
      | updateUser k data => exact updates k data rfl
      | _ => exact makes

/-- **Step.**  After a call the hashes verify what the call has set, else what was known. -/
theorem KnowsPasswords.after (verifies : Verifies verifyPassword a)
    (knows : KnowsPasswords verifyPassword known db) (c : Call) :
    KnowsPasswords verifyPassword
      (fun userId => (c.newPassword E a db userId).or (known userId)) (c.after E a db) := by
  cases c with
  | createUser data =>
      unfold Call.after Call.perform Call.newPassword
      dsimp only
      cases done : createUser E db (a.hashPassword 0) a.now data with
      | error failure => exact knows
      | ok out =>
          obtain ⟨row, db'⟩ := out
          obtain ⟨fresh, hash, members⟩ := createUser_eq_ok done
          intro u member password
          rcases members u member with old | rfl
          · have other : u.id ≠ row.id := by
              rw [fresh]
              exact (db.users.key_lt old).ne
            simp only [if_neg other, Option.none_or]
            exact knows u old password
          · rw [hash, verifies]
            simp only [if_true, Option.some_or, Option.some.injEq, eq_comm]
  | updateUser k data =>
      unfold Call.after Call.newPassword
      dsimp only
      cases done : (Call.updateUser k data).perform E a db with
      | error failure => exact knows
      | ok db' =>
          obtain ⟨user, found, saved⟩ := bind_eq_ok.mp done
          obtain ⟨⟨row, _⟩, updated, rfl⟩ := map_eq_ok.mp saved
          obtain ⟨loaded, rfl⟩ := getOrMissing_eq_ok found
          obtain ⟨same, hash, members⟩ := updateUser_eq_ok loaded updated
          intro u member password
          rcases members u member with ⟨old, other⟩ | rfl
          · simp only [key_user, if_neg other, Option.none_or]
            exact knows u old password
          · rw [hash, same]
            simp only [key_user, if_true]
            cases data.password.toOption.map Subtype.val with
            | none =>
                rw [Option.map_none, Option.getD_none, Option.none_or]
                exact knows user (Table.get_eq_some.mp loaded).1 password
            | some new =>
                rw [Option.map_some, Option.getD_some, Option.some_or, verifies]
                simp only [Option.some.injEq, eq_comm]
  | _ => exact knows.other (by simp) (by simp)

/-! ## A run -/

theorem KnowsPasswords.run (verifies : ∀ call ∈ calls, Verifies verifyPassword call.1)
    (knows : KnowsPasswords verifyPassword known db) :
    KnowsPasswords verifyPassword (fun userId => (lastPassword E db calls userId).or (known userId))
      (runCalls E db calls) := by
  induction calls generalizing db known with
  | nil => exact knows
  | cons call calls ih =>
      obtain ⟨a, c⟩ := call
      have later := ih (fun call member => verifies call (List.mem_cons_of_mem _ member))
        (knows.after (E := E) (verifies (a, c) List.mem_cons_self) c)
      simp only [← Option.or_assoc] at later
      exact later

/-- After a run from the empty database, the hashes verify what the run has set last. -/
theorem runCalls_knowsPasswords (verifies : ∀ call ∈ calls, Verifies verifyPassword call.1) :
    KnowsPasswords verifyPassword (lastPassword E .empty calls) (runCalls E .empty calls) := by
  have knows : KnowsPasswords verifyPassword (fun _ => none) DB.empty :=
    fun u member => (Table.not_mem_empty member).elim
  have after := knows.run (E := E) verifies
  simp only [Option.or_none] at after
  exact after

/-! ## Authentication -/

/-- Where e-mails are unique, the row that is found is the row with the e-mail. -/
theorem authenticateUser_iff {email password : String} {user : User} (takes : E.text email = true)
    (unique : db.users.UniqueOn User.email) :
    authenticateUser E verifyPassword db email password = .ok user ↔
      user ∈ db.users.toTable ∧ user.email = some email ∧
        verifyPassword password user.hashedPassword = true := by
  refine ⟨authenticateUser_eq_ok, fun ⟨member, same, verified⟩ => ?_⟩
  unfold authenticateUser
  rw [if_pos takes]
  split
  · next missing => exact absurd same (by simpa using Table.scalar_eq_none.mp missing user member)
  · next row found =>
      obtain ⟨member', same'⟩ := Table.scalar_some found
      have key := unique row member' user member email (of_decide_eq_true same') same
      obtain rfl := Table.eq_of_key member' member key
      rw [if_pos verified]

/-- It raises one error only. -/
theorem authenticateUser_cases {email password : String} (takes : E.text email = true) :
    (∃ user, authenticateUser E verifyPassword db email password = .ok user) ∨
      authenticateUser E verifyPassword db email password =
        .error (credentialsError .incorrectLogin) := by
  unfold authenticateUser
  rw [if_pos takes]
  split
  · exact .inr rfl
  · next user _ =>
      split
      · exact .inl ⟨user, rfl⟩
      · exact .inr rfl

/-- **The credential store.**  After any run of calls from the empty database, a login body is
answered with the user whose e-mail it has and who was last given its password, there is at
most one user with that e-mail, and in every other case the same error is raised. -/
theorem credential_store (verifies : ∀ call ∈ calls, Verifies verifyPassword call.1)
    {coerce : Coerce} (texts : ∀ value email, coerce.email value = some email → E.text email = true)
    {json : Json} {body : LoginRequest} (valid : LoginRequest.validate coerce json = .ok body) :
    (∀ user,
      authenticateUser E verifyPassword (runCalls E .empty calls) body.email body.password =
          .ok user ↔
        user ∈ (runCalls E .empty calls).users.toTable ∧ user.email = some body.email ∧
          lastPassword E .empty calls user.id = some body.password.1) ∧
      (∀ user ∈ (runCalls E .empty calls).users.toTable,
        ∀ user' ∈ (runCalls E .empty calls).users.toTable,
          user.email = some body.email → user'.email = some body.email → user = user') ∧
      ((¬ ∃ user ∈ (runCalls E .empty calls).users.toTable, user.email = some body.email ∧
          lastPassword E .empty calls user.id = some body.password.1) →
        authenticateUser E verifyPassword (runCalls E .empty calls) body.email body.password =
          .error (credentialsError .incorrectLogin)) := by
  obtain ⟨value, made⟩ := LoginRequest.email_of_validate valid
  have takes := texts value body.email made
  have consistent : Consistent (runCalls E .empty calls) :=
    runCalls_keep (fun kept _ allowed => Consistent.apply kept allowed) calls .empty
  have knows := runCalls_knowsPasswords (E := E) verifies
  have accepted (user : User) :
      authenticateUser E verifyPassword (runCalls E .empty calls) body.email body.password =
          .ok user ↔
        user ∈ (runCalls E .empty calls).users.toTable ∧ user.email = some body.email ∧
          lastPassword E .empty calls user.id = some body.password.1 := by
    rw [authenticateUser_iff takes consistent.emails]
    refine and_congr_right fun member => and_congr_right fun _ => ?_
    exact knows user member body.password.1
  refine ⟨accepted, fun user member user' member' same same' => ?_, fun nobody => ?_⟩
  · exact Table.eq_of_key member member'
      (consistent.emails user member user' member' body.email same same')
  · rcases authenticateUser_cases takes with ⟨user, passed⟩ | refused
    · obtain ⟨member, rest⟩ := (accepted user).mp passed
      exact absurd ⟨user, member, rest⟩ nobody
    · exact refused

end

/-- A user is created and then given another password. -/
def passwordChanged : List (Ambient × Call) :=
  [(plainAmbient, .createUser ⟨"ana@fleet.com", ⟨"first-password", by decide⟩, false⟩),
    (plainAmbient, .updateUser 1 ⟨.unset, .value ⟨"second-password", by decide⟩, .unset⟩)]

/-- Takes one address. -/
def anaCoerce : Coerce := { Coerce.asIs with
  email
    | .str s => if s = "ana@fleet.com" then some s else none
    | _ => none }

/-- The user as it is stored then. -/
def anaRow : User := ⟨1, some "ana@fleet.com", "second-password", false, none, none, 0⟩

theorem credential_store_changed :
    authenticateUser postgres (fun password hash => password = hash)
      (runCalls postgres .empty passwordChanged) "ana@fleet.com" "second-password" =
        .ok anaRow := by
  have verifies : ∀ call ∈ passwordChanged,
      Verifies (fun password hash => password = hash) call.1 := by
    intro call member
    simp only [passwordChanged, List.mem_cons, List.not_mem_nil, or_false] at member
    rcases member with rfl | rfl <;> exact fun _ _ _ => decide_eq_true_iff
  have texts : ∀ value email, anaCoerce.email value = some email →
      postgres.text email = true := by
    intro value email made
    cases value with
    | str s =>
        simp only [anaCoerce, Option.ite_none_right_eq_some, Option.some.injEq] at made
        obtain ⟨rfl, rfl⟩ := made
        decide
    | _ => cases made
  have valid : LoginRequest.validate anaCoerce (.obj
      [("email", .str "ana@fleet.com"), ("password", .str "second-password")]) =
        .ok ⟨"ana@fleet.com", ⟨"second-password", by decide⟩⟩ := rfl
  have stored : (runCalls postgres .empty passwordChanged).users.get 1 = some anaRow := by
    decide +kernel
  exact ((credential_store verifies texts valid).1 anaRow).mpr
    ⟨(Table.get_eq_some.mp stored).1, rfl, by decide +kernel⟩

end FleetTracking
