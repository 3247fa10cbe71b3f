import AccessAgent.OpenIAM.Connector
import AccessAgent.Python.Query

/-! The login in the link that resets a password. It is quoted once and stands in the link twice:
as a parameter, and within the address that another parameter holds. What reads that address
reads the login bare. -/

namespace AccessAgent.OpenIAM
open Query

/-- An address without a fragment. -/
structure BaseUrl where
  text : String
  whole : '#' ∉ text.toList

def loginName : List Char := "login".toList

def postbackName : List Char := "postbackUrl".toList

/-- The login is read back from the link, and from the address in the link. -/
def RoundTrips (base : BaseUrl) (login : String) : Prop :=
  ∃ url postback, buildPasswordResetUrl ⟨base.text,defaultPasswordResetUrlTemplate⟩ base.text (.str login) = .ok url ∧
    parameter loginName url.toList = some login.toList ∧ parameter postbackName url.toList = some postback ∧
    parameter loginName postback = some login.toList

/-- Nothing in the login means anything in a query. -/
def Bare (login : List Char) : Prop :=
  (∀ c ∈ login, kept c = true ∧ c ≠ '#') ∧ '&' ∉ login ∧ '+' ∉ login ∧ ¬Escapes login

/-! ### The address in the link -/

def resetForm : List Char := "/idp/resetPasswordForm?login=".toList

theorem resetForm_query (login : List Char) : query (resetForm ++ login) = "login=".toList ++ visible login := by
  rw [query_append (by decide) (by decide)]
  rfl

theorem reads_login : unquotePlus loginName = loginName := rfl

theorem resetForm_reads {login : List Char} (bare : Bare login) : parameter loginName (resetForm ++ login) = some login := by
  obtain ⟨seen,single,plain⟩ := bare
  have field : "login=".toList ++ login = loginName ++ '='::login := rfl
  rw [parameter,resetForm_query,visible_self.mpr seen,field,parameters_single (by simp [loginName]) (by simpa [loginName] using single),
    pair_named login (by decide),unquotePlus_self.mpr plain,reads_login]
  simp

theorem resetForm_bare {login : List Char} (found : parameter loginName (resetForm ++ login) = some login) : Bare login := by
  obtain ⟨field,member,pairs⟩ := parameter_success found
  rw [resetForm_query] at member
  obtain ⟨within,several⟩ := field_length member
  have short := (visible_sublist login).length_le
  have named : "login=".toList = loginName ++ ['='] := rfl
  have five : loginName.length = 5 := rfl
  simp only [named,List.length_append,List.length_singleton,five] at within several
  rcases pair_length pairs with empty | long
  · subst empty
    exact ⟨by simp,by simp,by simp,fun escapes => absurd (escapes_length escapes) (by decide)⟩
  · rw [five] at long
    have same : visible login = login := (visible_sublist login).eq_of_length (by omega)
    have single : '&' ∉ "login=".toList ++ visible login := fun inside => absurd (several inside) (by omega)
    rw [List.splitOn_eq_singleton single,List.mem_singleton] at member
    rw [same] at single member
    have reads : unquotePlus login = login := by
      rw [member,named,List.append_assoc,List.singleton_append,pair_named login (by decide)] at pairs
      exact (Prod.mk.inj pairs).2
    obtain ⟨noPlus,noEscape⟩ := unquotePlus_self.mp reads
    exact ⟨visible_self.mp same,fun inside => single (List.mem_append_right _ inside),noPlus,noEscape⟩

/-! ### The link -/

/-- The path of the link, up to its first login. -/
def authPath : List String :=
  ["/idp/auth-select?reqAuthTypes=PASSWORD_AUTH,PUSH_AUTH,CERT_AUTH,SMS_AUTH,",
    "VOICE_AUTH,CHALLENGE_RESPONSE_AUTH,DUO_AUTH,TOTP_AUTH,CRIIPTO_AUTH,KERB_AUTH,WEB_AUTH,","EMAIL_AUTH"]

def beforeLogin (base : String) : List Char := (Text.rstripSlash base).toList ++ authPath.flatMap String.toList

def loginField (login : List Char) : List Char := loginName ++ '='::quoteChars login

def postbackField (login : List Char) : List Char := postbackName ++ '='::quoteChars (resetForm ++ login)

theorem link_ok (base : BaseUrl) (login : String) : ∃ url,
    buildPasswordResetUrl ⟨base.text,defaultPasswordResetUrlTemplate⟩ base.text (.str login) = .ok url ∧
      url.toList = beforeLogin base.text ++ '&'::(loginField login.toList ++ '&'::postbackField login.toList) := by
  refine ⟨_,rfl,?_⟩
  have quoted : quoteChars (resetForm ++ login.toList) = quoteChars resetForm ++ quoteChars login.toList := List.flatMap_append
  have login_ : (Text.quote login).toList = quoteChars login.toList := String.toList_ofList
  have ending : "EMAIL_AUTH&login=".toList = "EMAIL_AUTH".toList ++ '&'::(loginName ++ ['=']) := by decide
  have nested : "&postbackUrl=%2Fidp%2FresetPasswordForm%3Flogin%3D".toList = '&'::(postbackName ++ '='::quoteChars resetForm) := by
    decide
  rw [String.toList_join,defaultPasswordResetUrlTemplate]
  simp only [List.map_cons,List.map_nil,List.flatMap_cons,List.flatMap_nil,String.toList_append,List.append_nil,login_,ending,nested,
    beforeLogin,authPath,loginField,postbackField,quoted,List.append_assoc,List.cons_append,List.nil_append]

theorem authPath_whole : ∀ piece ∈ authPath, '#' ∉ piece.toList := by decide +kernel

theorem beforeLogin_whole (base : BaseUrl) : '#' ∉ beforeLogin base.text := by
  intro member
  rcases List.mem_append.mp member with address | path
  · rw [Text.rstripSlash,String.toList_ofList,List.mem_reverse] at address
    exact base.whole (List.mem_reverse.mp ((List.dropWhile_sublist _).subset address))
  · obtain ⟨piece,inside,mark⟩ := List.mem_flatMap.mp path
    exact authPath_whole piece inside mark

theorem beforeLogin_asks (base : String) : '?' ∈ beforeLogin base :=
  List.mem_append_right _ (List.mem_flatMap.mpr ⟨_,List.mem_cons_self,by decide +kernel⟩)

/-- What is quoted stands in a field as it is. -/
theorem quoteChars_kept (text : List Char) : ∀ c ∈ quoteChars text, kept c = true ∧ c ≠ '#' := by
  intro c member
  have without : ∀ mark, Text.unreserved mark = false ∧ mark ≠ '%' → c ≠ mark := by
    rintro mark reserved rfl
    exact quoteChars_without reserved member
  have first := without '\t' (by decide)
  have second := without '\r' (by decide)
  have third := without '\n' (by decide)
  exact ⟨by simp [kept,first,second,third],without '#' (by decide)⟩

theorem field_visible {name : List Char} (known : name = loginName ∨ name = postbackName) (text : List Char) :
    ∀ c ∈ '&'::(name ++ '='::quoteChars text), kept c = true ∧ c ≠ '#' := by
  have names : (name.all fun c => kept c && c != '#') = true := by
    rcases known with rfl | rfl <;> rfl
  simp only [List.all_eq_true,Bool.and_eq_true,bne_iff_ne] at names
  intro c member
  simp only [List.mem_cons,List.mem_append] at member
  rcases member with rfl | named | rfl | quoted
  · decide
  · exact names c named
  · decide
  · exact quoteChars_kept text c quoted

theorem field_single {name : List Char} (known : name = loginName ∨ name = postbackName) (text : List Char) :
    '&' ∉ name ++ '='::quoteChars text := by
  have names : '&' ∉ name := by
    rcases known with rfl | rfl <;> decide
  simp only [List.mem_append,List.mem_cons,not_or]
  exact ⟨names,by decide,quoteChars_without (by decide)⟩

theorem link_query (base : BaseUrl) (login : List Char) :
    query (beforeLogin base.text ++ '&'::(loginField login ++ '&'::postbackField login)) =
      (query (beforeLogin base.text) ++ '&'::loginField login) ++ '&'::postbackField login := by
  rw [query_append (beforeLogin_whole base) (beforeLogin_asks base.text),visible_self.mpr]
  · simp
  · intro c member
    rw [← List.cons_append] at member
    rcases List.mem_append.mp member with first | second
    · exact field_visible (Or.inl rfl) login c first
    · exact field_visible (Or.inr rfl) (resetForm ++ login) c second

/-- What the link says: the login, and the address with the login as it is. -/
theorem link_reads (base : BaseUrl) (login : List Char) :
    parameter loginName (beforeLogin base.text ++ '&'::(loginField login ++ '&'::postbackField login)) = some login ∧
      parameter postbackName (beforeLogin base.text ++ '&'::(loginField login ++ '&'::postbackField login)) =
        some (resetForm ++ login) := by
  have first : pair (loginField login) = (loginName,login) := by
    rw [loginField,pair_named _ (by decide),unquotePlus_quote]
    rfl
  have second : pair (postbackField login) = (postbackName,resetForm ++ login) := by
    rw [postbackField,pair_named _ (by decide),unquotePlus_quote]
    rfl
  have single : '&' ∉ loginField login := field_single (Or.inl rfl) login
  have alone : '&' ∉ postbackField login := field_single (Or.inr rfl) (resetForm ++ login)
  have entries : parameters (query (beforeLogin base.text ++ '&'::(loginField login ++ '&'::postbackField login))) =
      parameters (query (beforeLogin base.text)) ++ [(loginName,login)] ++ [(postbackName,resetForm ++ login)] := by
    rw [link_query,parameters_append _ (by simp [postbackField]) alone,parameters_append _ (by simp [loginField]) single,first,
      second]
  have other : postbackName ≠ loginName := by decide
  rw [parameter,parameter,entries]
  simp [other]

/-- A link round trips when nothing in its login means anything in a query. -/
theorem roundTrips_iff (base : BaseUrl) (login : String) : RoundTrips base login ↔ Bare login.toList := by
  obtain ⟨url,built,link⟩ := link_ok base login
  obtain ⟨outer,nested⟩ := link_reads base login.toList
  rw [← link] at outer nested
  constructor
  · rintro ⟨other,postback,again,_,address,inner⟩
    obtain rfl := Except.ok.inj (built.symm.trans again)
    obtain rfl := Option.some.inj (nested.symm.trans address)
    exact resetForm_bare inner
  · intro bare
    exact ⟨url,resetForm ++ login.toList,built,outer,nested,resetForm_reads bare⟩

/-- The plus of a login is read as a space. -/
theorem plus_login_lost : ∃ base : BaseUrl, base.text = "https://idp.example.com" ∧
    ¬RoundTrips base "jdoe+admin@example.com" := by
  refine ⟨⟨"https://idp.example.com",by decide⟩,rfl,?_⟩
  rintro ⟨url,postback,built,_,address,inner⟩
  obtain ⟨other,again,link⟩ := link_ok ⟨"https://idp.example.com",by decide⟩ "jdoe+admin@example.com"
  obtain rfl := Except.ok.inj (built.symm.trans again)
  rw [link,(link_reads _ _).2] at address
  obtain rfl := Option.some.inj address
  exact (resetForm_bare inner).2.2.1 (by decide)

end AccessAgent.OpenIAM
