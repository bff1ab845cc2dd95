import FastapiTemplate.Identity.Checks

/-!
# Whose account a social login opens

A callback looks for the user by provider id, then by e-mail address, links the account of the user it finds
or creates one. The provider id is the text of whatever the user info holds under `id`, so a missing id is the
empty text and a null id is `None`, for everybody alike. `oauth_no_stranger` is about every sequence of
callbacks in which such a text leads to nobody with another address.
-/

namespace FastapiTemplate.Identity

open Effects Python Store Script

variable {cfg : Settings} {lib : Libraries} {client : Client} {w : World} {provider providerId : String}
  {email : Value} {user : User}

/-! ### One callback -/

/-- The columns that link a user to an account at a provider. -/
def User.LinkedTo (provider providerId : String) (user : User) : Prop :=
  user.oauthProvider = some provider ∧ user.oauthProviderId = some providerId

/-- What the search for the user of a callback comes to: it is refused, it finds a user who is linked to the
account, it links the user that it finds, or it creates one. -/
inductive SocialLogin (client : Client) (w : World) (provider : String) (email : Value) (providerId : String) :
    Except Exn User → Table User → Prop
  | refused (e : Exn) : SocialLogin client w provider email providerId (.error e) w.users
  | known (row : User) (hfinds : OauthFinds client w provider email providerId row)
      (hlinked : row.LinkedTo provider providerId) :
      SocialLogin client w provider email providerId (.ok row) w.users
  | linked (row user : User) (hfinds : OauthFinds client w provider email providerId row)
      (hfree : row.oauthProviderId = none ∨ row.oauthProviderId = some "") (hid : user.id = row.id)
      (hemail : user.email = row.email) (hlinked : user.LinkedTo provider providerId) :
      SocialLogin client w provider email providerId (.ok user) (w.users.put user)
  | created (user : User) (hemail : email = .str user.email) (hlinked : user.LinkedTo provider providerId) :
      SocialLogin client w provider email providerId (.ok { user with id := w.users.next })
        (w.users.insert user)

lemma emailText_eq_ok {address : String} : emailText email = .ok address ↔ email = .str address := by
  cases email <;> simp [emailText]

/-- A lookup by provider id finds a user who is linked to the account, one by address a user with it. -/
lemma OauthFinds.mem (h : OauthFinds client w provider email providerId user) :
    user ∈ w.users.rows ∧ (user.LinkedTo provider providerId ∨ email = .str user.email) := by
  rcases h with h | ⟨-, address, haddress, h⟩
  · unfold getByOauth at h
    rw [exec_selectUser] at h
    obtain ⟨hmem, -, hp⟩ := mem_of_select h
    obtain ⟨hprovider, hid⟩ := (Bool.and_eq_true _ _).mp hp
    exact ⟨hmem, .inl ⟨beq_iff_eq.1 hprovider, beq_iff_eq.1 hid⟩⟩
  · unfold getByEmail at h
    rw [exec_selectUser] at h
    obtain ⟨hmem, -, hp⟩ := mem_of_select h
    exact ⟨hmem, .inr (by rw [emailText_eq_ok.1 haddress, beq_iff_eq.1 hp])⟩

/-- The user is linked, with the tokens of the exchange where there are any. -/
lemma exec_linkOauthAccount (hmem : user ∈ w.users.rows)
    (provider providerId accessToken refreshToken : String) :
    ∃ linked : User, linked.id = user.id ∧ linked.email = user.email ∧ linked.LinkedTo provider providerId ∧
      (linkOauthAccount user provider providerId accessToken refreshToken).exec serve () w =
        ⟨.ok linked, (), { w with users := w.users.put linked }⟩ := by
  refine ⟨{ user with
    oauthProvider := some provider
    oauthProviderId := some providerId
    oauthAccessToken := if accessToken = "" then user.oauthAccessToken else some accessToken
    oauthRefreshToken := if refreshToken = "" then user.oauthRefreshToken else some refreshToken },
    rfl, rfl, ⟨rfl, rfl⟩, ?_⟩
  unfold linkOauthAccount
  rw [exec_bind, exec_saveUser hmem, Outcome.next_ok, exec_pure]
  · simp only [User.update, column_loaded]
  · rfl

lemma socialLogin_found {row : User} (hfinds : OauthFinds client w provider email providerId row)
    (accessToken refreshToken : String) :
    SocialLogin client w provider email providerId
      ((linkFound row provider providerId accessToken refreshToken).exec serve () w).result
      ((linkFound row provider providerId accessToken refreshToken).exec serve () w).world.users := by
  unfold linkFound
  split
  · rename_i hfree
    obtain ⟨linked, hid, hemail, hlinked, hexec⟩ :=
      exec_linkOauthAccount hfinds.mem.1 provider providerId accessToken refreshToken
    rw [hexec]
    exact .linked row linked hfinds hfree hid hemail hlinked
  · split
    · exact .refused _
    · rename_i hlinked
      obtain ⟨hprovider, hid⟩ := not_or.1 hlinked
      exact .known row hfinds ⟨not_not.1 hprovider, not_not.1 hid⟩

lemma socialLogin_created {address : String} (haddress : emailText email = .ok address)
    (accessToken refreshToken : String) :
    SocialLogin client w provider email providerId
      ((createOauthUser lib client address provider providerId accessToken refreshToken).exec serve () w).result
      ((createOauthUser lib client address provider providerId accessToken refreshToken).exec serve () w).world.users := by
  unfold createOauthUser createUser
  simp only [exec_bind, exec_randomText, exec_datetimeNow, exec_perform, exec_ofExcept, Outcome.next_ok, serve]
  unfold World.insertUser
  split
  · exact .refused _
  · exact .created _ (emailText_eq_ok.1 haddress) ⟨rfl, rfl⟩

/-- **The user of a callback.** -/
theorem socialLogin (accessToken refreshToken : String) :
    SocialLogin client w provider email providerId
      ((oauthUser lib client provider email providerId accessToken refreshToken).exec serve () w).result
      ((oauthUser lib client provider email providerId accessToken refreshToken).exec serve () w).world.users := by
  rcases exec_oauthUser_cases lib client w provider email providerId accessToken refreshToken with
    ⟨e, hexec⟩ | ⟨row, hfinds, hexec⟩ | ⟨address, haddress, hexec⟩ <;> rw [hexec]
  · exact .refused e
  · exact socialLogin_found hfinds accessToken refreshToken
  · exact socialLogin_created haddress accessToken refreshToken

/-- It looks at the users only. -/
lemma SocialLogin.congr {w' : World} {r : Except Exn User} {users : Table User}
    (h : SocialLogin client w' provider email providerId r users) (husers : w'.users = w.users) :
    SocialLogin client w provider email providerId r users := by
  cases h with
  | refused e => exact husers ▸ .refused e
  | known row hfinds hlinked => exact husers ▸ .known row (hfinds.congr husers) hlinked
  | linked row user hfinds hfree hid hemail hlinked =>
    exact husers ▸ .linked row user (hfinds.congr husers) hfree hid hemail hlinked
  | created user hemail hlinked => exact husers ▸ .created user hemail hlinked

/-- A request to `/oauth/callback`, with what the provider answers. -/
structure Callback where
  client : Client
  provider : String
  state : String
  answers : ProviderAnswers

namespace Callback

/-- The run of the request. -/
def exec (cfg : Settings) (lib : Libraries) (c : Callback) (w : World) : Outcome Unit Exn World TokenPair :=
  (oauthCallback cfg lib c.client c.provider c.state c.answers).exec serve () w

/-- The user info yields this e-mail address and this provider id. -/
def Yields (c : Callback) (email : Value) (providerId : String) : Prop :=
  ∃ raw, c.answers.userInfo = .ok raw ∧ parseUserInfo raw = .ok (email, providerId)

/-- The user info has an id, and this is its text. -/
def Genuine (c : Callback) (providerId : String) : Prop :=
  ∃ items id, c.answers.userInfo = .ok (.dict items) ∧ items.lookup "id" = some id ∧ id ≠ .none ∧
    id.toStr = providerId

/-- It logs the user in: the tokens that it returns are his. -/
def LogsIn (cfg : Settings) (lib : Libraries) (w : World) (c : Callback) (user : User) : Prop :=
  user ∈ (c.exec cfg lib w).world.users.rows ∧
    ∃ pair, (c.exec cfg lib w).result = .ok pair ∧ pair.accessToken.claims.sub = toString user.id

/-- It creates the user with a link to the account, or links the user who was not linked to it. -/
def Links (cfg : Settings) (lib : Libraries) (w : World) (c : Callback) (providerId : String) (userId : ℤ) :
    Prop :=
  (∃ user ∈ (c.exec cfg lib w).world.users.rows, user.id = userId ∧ user.LinkedTo c.provider providerId) ∧
    ∀ user ∈ w.users.rows, user.id = userId → ¬user.LinkedTo c.provider providerId

variable {c : Callback}

/-- **What a callback does to the users, and whose tokens it returns.** -/
theorem exec_cases (cfg : Settings) (lib : Libraries) (w : World) (c : Callback) :
    ((c.exec cfg lib w).world.users = w.users ∧ ∀ pair, (c.exec cfg lib w).result ≠ .ok pair) ∨
      ∃ email providerId r, c.Yields email providerId ∧
        SocialLogin c.client w c.provider email providerId r (c.exec cfg lib w).world.users ∧
        ∀ pair, (c.exec cfg lib w).result = .ok pair →
          ∃ user, r = .ok user ∧ pair.accessToken.claims.sub = toString user.id := by
  have hraised : ∀ (e : Exn) (pair : TokenPair), (.error e : Except Exn TokenPair) ≠ .ok pair := by simp
  unfold Callback.exec oauthCallback
  obtain ⟨known, redis, hexec, -⟩ := exec_consumeOauthState (w := w) c.state
  rw [exec_bind, hexec, Outcome.next_ok]
  cases known with
  | false => exact .inl ⟨rfl, hraised _⟩
  | true =>
    simp only [Bool.not_true, Bool.false_eq_true, if_false]
    split
    · exact .inl ⟨rfl, hraised _⟩
    · exact .inl ⟨rfl, hraised _⟩
    · rename_i accessToken refreshToken raw hexchange hinfo
      rw [exec_bind, exec_ofExcept]
      rcases hparse : parseUserInfo raw with e | ⟨email, providerId⟩
      · exact .inl ⟨rfl, hraised _⟩
      rw [liftBuiltin, Outcome.next_ok]
      dsimp only
      split
      · exact .inl ⟨rfl, hraised _⟩
      rw [exec_bind]
      have hlogin : SocialLogin c.client { w with redis := redis } c.provider email providerId
          ((oauthUser lib c.client c.provider email providerId accessToken refreshToken).exec serve ()
            { w with redis := redis }).result
          ((oauthUser lib c.client c.provider email providerId accessToken refreshToken).exec serve ()
            { w with redis := redis }).world.users := socialLogin accessToken refreshToken
      generalize (oauthUser lib c.client c.provider email providerId accessToken refreshToken).exec serve ()
        { w with redis := redis } = o at hlogin ⊢
      have hsame : SocialLogin c.client w c.provider email providerId o.result o.world.users := hlogin.congr rfl
      refine .inr ⟨email, providerId, o.result, ⟨raw, hinfo, hparse⟩, ?_⟩
      obtain ⟨e | user, s, w'⟩ := o
      · exact ⟨hsame, fun pair h => absurd h (hraised _ pair)⟩
      · rw [Outcome.next_ok]
        split
        · exact ⟨hsame, fun pair h => absurd h (hraised _ pair)⟩
        · have hspares : ∀ e : Eff, e.SparesUsers → Serves (fun v => v.users = w'.users) e :=
            fun e he v hv => (he.users_eq v).trans hv
          have hissue : ((issueTokens cfg c.client user).exec serve s w').world.users = w'.users ∧
              ∀ pair, ((issueTokens cfg c.client user).exec serve s w').result = .ok pair →
                pair.accessToken.claims.sub = toString user.id := Keeps.spares_issueTokens hspares user s w' rfl
          rw [hissue.1]
          exact ⟨hsame, fun pair h => ⟨user, rfl, hissue.2 pair h⟩⟩

end Callback

/-! ### Every sequence of callbacks -/

lemma Callback.Yields.unique {c : Callback} {email' : Value} {providerId' : String}
    (h : c.Yields email providerId) (h' : c.Yields email' providerId') :
    email = email' ∧ providerId = providerId' := by
  obtain ⟨raw, hraw, hparse⟩ := h
  obtain ⟨raw', hraw', hparse'⟩ := h'
  obtain rfl := Except.ok.inj (hraw.symm.trans hraw')
  exact Prod.mk.inj (Except.ok.inj (hparse.symm.trans hparse'))

/-- The text is that of a missing id or that of a null id. -/
def Anonymous (providerId : String) : Prop := providerId = "" ∨ providerId = "None"

/-- Any other text is that of an id. -/
lemma Callback.Yields.genuine {c : Callback} (h : c.Yields email providerId) (hid : ¬Anonymous providerId) :
    c.Genuine providerId := by
  obtain ⟨raw, hraw, hparse⟩ := h
  unfold parseUserInfo at hparse
  obtain ⟨email', hemail, hparse⟩ := bind_eq_ok.1 hparse
  obtain ⟨id, hget, hparse⟩ := bind_eq_ok.1 hparse
  obtain ⟨-, rfl⟩ := Prod.mk.inj (Except.ok.inj hparse)
  cases raw with
  | dict items =>
    obtain rfl := Except.ok.inj hget
    rcases hlookup : items.lookup "id" with _ | id
    · exact absurd (.inl (by rw [hlookup]; rfl)) hid
    · rw [hlookup, Option.getD_some] at hid
      refine ⟨items, id, hraw, hlookup, ?_, by rw [Option.getD_some]⟩
      rintro rfl
      exact hid (.inr rfl)
  | _ => cases hget

/-- Other code that runs between two callbacks; it links nobody. -/
structure Meanwhile where
  change : World → World
  links_nobody : ∀ w, ∀ user ∈ (change w).users.rows, ∀ provider providerId,
    user.LinkedTo provider providerId →
      ∃ row ∈ w.users.rows, row.id = user.id ∧ row.LinkedTo provider providerId

inductive SocialStep where
  | callback (c : Callback)
  | meanwhile (m : Meanwhile)

/-- The world after a step. -/
def SocialStep.step (cfg : Settings) (lib : Libraries) : SocialStep → World → World
  | .callback c, w => (c.exec cfg lib w).world
  | .meanwhile m, w => m.change w

/-- A callback of this provider with this id has created the user or linked him. -/
def LinkedBy (cfg : Settings) (lib : Libraries) (past : List (World × SocialStep)) (provider providerId : String)
    (userId : ℤ) : Prop :=
  ∃ v c, (v, SocialStep.callback c) ∈ past ∧ c.provider = provider ∧ c.Genuine providerId ∧
    c.Links cfg lib v providerId userId

/-- The callback logs in nobody but users with the address, and users whom an earlier callback of the provider
with the same genuine id has created or linked. -/
def NoStranger (cfg : Settings) (lib : Libraries) (past : List (World × SocialStep)) (w : World) :
    SocialStep → Prop
  | .callback c => ∀ email providerId user, c.Yields email providerId → c.LogsIn cfg lib w user →
      email = .str user.email ∨ LinkedBy cfg lib past c.provider providerId user.id
  | .meanwhile _ => True

/-- If the text of the id may be that of a missing one, no user with another address is linked under it. -/
def SocialStep.Told (w : World) : SocialStep → Prop
  | .callback c => ∀ email providerId, c.Yields email providerId → Anonymous providerId →
      ∀ user ∈ w.users.rows, user.LinkedTo c.provider providerId → email = .str user.email
  | .meanwhile _ => True

/-- Every link under another text was made by a callback. -/
def Accounted (cfg : Settings) (lib : Libraries) (past : List (World × SocialStep)) (w : World) : Prop :=
  ∀ user ∈ w.users.rows, ∀ provider providerId, user.LinkedTo provider providerId → ¬Anonymous providerId →
    LinkedBy cfg lib past provider providerId user.id

lemma LinkedBy.earlier {past : List (World × SocialStep)} {p : World × SocialStep} {userId : ℤ}
    (h : LinkedBy cfg lib past provider providerId userId) :
    LinkedBy cfg lib (p :: past) provider providerId userId := by
  obtain ⟨v, c, hmem, hrest⟩ := h
  exact ⟨v, c, List.mem_cons_of_mem _ hmem, hrest⟩

section Step

variable {past : List (World × SocialStep)} {c : Callback}

/-- **The user whom a callback logs in.** -/
theorem Accounted.noStranger (h : Accounted cfg lib past w) (htold : (SocialStep.callback c).Told w) :
    NoStranger cfg lib past w (.callback c) := by
  rintro email providerId user hyields ⟨hmem, pair, hpair, hsub⟩
  rcases c.exec_cases cfg lib w with ⟨-, hresult⟩ | ⟨email', providerId', r, hyields', hlogin, hresult⟩
  · exact absurd hpair (hresult pair)
  obtain ⟨rfl, rfl⟩ := hyields.unique hyields'
  obtain ⟨user', hr, hsub'⟩ := hresult pair hpair
  have hid : user.id = user'.id := by
    have hread := pyInt_toString user.id
    rw [← hsub, hsub', pyInt_toString] at hread
    exact (Except.ok.inj hread).symm
  generalize (c.exec cfg lib w).world.users = users at hlogin hmem
  -- a stored user whom the search finds
  have hfound : ∀ row, OauthFinds c.client w c.provider email providerId row →
      email = .str row.email ∨ LinkedBy cfg lib past c.provider providerId row.id := by
    intro row hfinds
    obtain ⟨hrow, hlinked | hemail⟩ := hfinds.mem
    · by_cases hanonymous : Anonymous providerId
      · exact .inl (htold email providerId hyields hanonymous row hrow hlinked)
      · exact .inr (h row hrow _ _ hlinked hanonymous)
    · exact .inl hemail
  cases hlogin with
  | refused e => cases hr
  | known row hfinds _ =>
    obtain rfl := Except.ok.inj hr
    rw [w.users.key_injOn hmem hfinds.mem.1 hid]
    exact hfound row hfinds
  | linked row linked hfinds _ hlinkedId hemail _ =>
    obtain rfl := Except.ok.inj hr
    obtain ⟨row', hrow', rfl⟩ := List.mem_map.1 hmem
    have hkey : row'.id = row.id := ((Table.key_overwrite linked row').symm.trans hid).trans hlinkedId
    have hwritten : Table.overwrite linked row' = linked := if_pos (hkey.trans hlinkedId.symm)
    rw [hwritten, hemail, hlinkedId]
    exact hfound row hfinds
  | created user' hemail _ =>
    obtain rfl := Except.ok.inj hr
    rcases Table.mem_insert.1 hmem with hold | rfl
    · exact absurd hid (w.users.below user hold).ne
    · exact .inl hemail

/-- **The links after a callback.** -/
theorem Accounted.callback (h : Accounted cfg lib past w) :
    Accounted cfg lib ((w, .callback c) :: past) (c.exec cfg lib w).world := by
  intro user hmem provider providerId hlinked hid
  -- the user was linked before, or this callback has linked him
  by_cases hold : ∃ row ∈ w.users.rows, row.id = user.id ∧ row.LinkedTo provider providerId
  · obtain ⟨row, hrow, hsame, hlinked⟩ := hold
    exact hsame ▸ (h row hrow provider providerId hlinked hid).earlier
  have hnew : ∀ row ∈ w.users.rows, row.id = user.id → ¬row.LinkedTo provider providerId :=
    fun row hrow hsame hlinked => hold ⟨row, hrow, hsame, hlinked⟩
  have hkept : user ∉ w.users.rows := fun hrow => hnew user hrow rfl hlinked
  rcases c.exec_cases cfg lib w with ⟨husers, -⟩ | ⟨email, providerId', r, hyields, hlogin, -⟩
  · exact absurd (husers ▸ hmem) hkept
  have hlinks : user.LinkedTo c.provider providerId' →
      LinkedBy cfg lib ((w, .callback c) :: past) provider providerId user.id := by
    intro hthis
    obtain rfl := Option.some.inj (hthis.1.symm.trans hlinked.1)
    obtain rfl := Option.some.inj (hthis.2.symm.trans hlinked.2)
    exact ⟨w, c, List.mem_cons_self, rfl, hyields.genuine hid, ⟨user, hmem, rfl, hlinked⟩, hnew⟩
  generalize husers : (c.exec cfg lib w).world.users = users at hlogin
  rw [husers] at hmem
  cases hlogin with
  | refused e => exact absurd hmem hkept
  | known row _ _ => exact absurd hmem hkept
  | linked row linked _ _ _ _ hlinkedTo =>
    obtain ⟨row', hrow', rfl⟩ := List.mem_map.1 hmem
    by_cases hkey : Keyed.key row' = Keyed.key linked
    · refine hlinks ?_
      unfold Table.overwrite
      rw [if_pos hkey]
      exact hlinkedTo
    · rw [Table.overwrite_of_ne hkey] at hkept
      exact absurd hrow' hkept
  | created user' _ hlinkedTo =>
    rcases Table.mem_insert.1 hmem with hrow | rfl
    · exact absurd hrow hkept
    · exact hlinks hlinkedTo

/-- What links nobody changes nothing. -/
lemma Accounted.meanwhile (h : Accounted cfg lib past w) (m : Meanwhile) :
    Accounted cfg lib ((w, .meanwhile m) :: past) (m.change w) := by
  intro user hmem provider providerId hlinked hid
  obtain ⟨row, hrow, hsame, hlinked⟩ := m.links_nobody w user hmem provider providerId hlinked
  exact hsame ▸ (h row hrow provider providerId hlinked hid).earlier

end Step

/-- **Whom social logins log in**: in a sequence of callbacks from a world without links, in which the text of
a missing id leads to nobody with another address, every callback logs in a user with the address of the user
info, or one whom an earlier callback of the provider with the same id has created or linked. -/
theorem oauth_no_stranger (cfg : Settings) (lib : Libraries) (w : World)
    (hstart : ∀ user ∈ w.users.rows, user.oauthProviderId = none) (steps : List SocialStep)
    (heach : Each (SocialStep.step cfg lib) SocialStep.Told w steps) :
    Along (SocialStep.step cfg lib) (NoStranger cfg lib) [] w steps := by
  refine along_of_each (I := Accounted cfg lib) (fun past w s hw htold => ?_) ?_ heach
  · cases s with
    | callback c => exact ⟨hw.noStranger htold, hw.callback⟩
    | meanwhile m => exact ⟨trivial, hw.meanwhile m⟩
  · intro user hmem provider providerId hlinked _
    exact nomatch (hstart user hmem).symm.trans hlinked.2

namespace Sample

/-- Every state is known. -/
def states : Expiring String Value := fun _ => some ⟨.str "1", none⟩

/-- A world without users in which every state is known. -/
def emptyWorld : World where
  now := 1000 * second
  redis := { oauthStates := states }
  nonces := nonces

/-- A callback of github with this user info. -/
def callback (state : String) (items : List (String × Value)) : Callback where
  client := {}
  provider := "github"
  state := state
  answers := ⟨.ok ("a", "r"), .ok (.dict items)⟩

/-- Ann and Eve log in; github says no id of either. -/
def withoutId : List SocialStep :=
  [.callback (callback "a" [("email", .str "ann@example.com")]),
    .callback (callback "b" [("email", .str "eve@example.com")])]

/-- Ann logs in twice, the second time with another address. -/
def withId : List SocialStep :=
  [.callback (callback "a" [("email", .str "ann@example.com"), ("id", .int 7)]),
    .callback (callback "b" [("email", .str "ann@example.org"), ("id", .int 7)])]

end Sample

open Sample in
/-- Eve is logged in as Ann. -/
theorem oauth_stranger :
    ¬Along (SocialStep.step settings libraries) (NoStranger settings libraries) [] emptyWorld withoutId := by
  rintro ⟨-, hstranger, -⟩
  have hlogs : ∃ user : User, user.email = "ann@example.com" ∧
      (callback "b" [("email", .str "eve@example.com")]).LogsIn settings libraries
        ((callback "a" [("email", .str "ann@example.com")]).exec settings libraries emptyWorld).world user :=
    ⟨_, by rfl, List.mem_singleton_self _, _, by rfl, by rfl⟩
  obtain ⟨user, hemail, hlogs⟩ := hlogs
  rcases hstranger (.str "eve@example.com") "" user ⟨_, rfl, by rfl⟩ hlogs with haddress | hlinked
  · rw [hemail] at haddress
    exact absurd (Value.str.inj haddress) (by decide)
  · obtain ⟨v, c, hmem, -, ⟨items, id, hinfo, hid, -⟩, -⟩ := hlinked
    cases List.mem_singleton.1 hmem
    cases hinfo
    cases hid

lemma Sample.told_withId (w : World) (state address : String) :
    (SocialStep.callback (Sample.callback state [("email", .str address), ("id", .int 7)])).Told w := by
  intro email providerId hyields hanonymous
  have hyields' : (Sample.callback state [("email", .str address), ("id", .int 7)]).Yields (.str address) "7" :=
    ⟨_, rfl, by rfl⟩
  obtain ⟨-, rfl⟩ := hyields.unique hyields'
  exact absurd hanonymous (by rintro (h | h) <;> exact absurd h (by decide))

open Sample in
/-- With an id Ann is logged in under either address. -/
theorem oauth_no_stranger_withId :
    Along (SocialStep.step settings libraries) (NoStranger settings libraries) [] emptyWorld withId :=
  oauth_no_stranger settings libraries emptyWorld (fun _ h => nomatch h) withId
    ⟨told_withId _ _ _, told_withId _ _ _, trivial⟩

end FastapiTemplate.Identity
