import DesktopPool.Setup.Script
import DesktopPool.Proofs.Value.Whole

/-! Reading the setup script's literals back. The shell the script is written for ends a
single-quoted literal at any of five quote characters, the apostrophe and the four typographic
single quotes U+2018 to U+201B, unless another of the five follows it: the pair stands for the
second one. `readQuoted` is that rule, read from just after the opening quote.

The script doubles only the apostrophe. Every value it embeds (the transcript path, the domain
password, user, domain and organizational unit, the two installer addresses and the token
argument) stands in it as an opening quote, the escaped value, the closing quote and a character
that is no quote. Such a literal reads back as exactly its value, ending at its own closing
quote, if and only if the value holds no typographic quote: each quote character the reader
consumes is half of a pair or the closing one, so a typographic quote left single ends the
literal early or pairs with the character after it. -/
namespace DesktopPool.SetupScript

def singleQuote (c : Char) : Bool :=
  c == Text.apostrophe || c == '‘' || c == '’' || c == '‚' || c == '‛'

/-- A quote character other than the apostrophe, which the script leaves as it is. -/
def typographic (c : Char) : Bool := singleQuote c && c != Text.apostrophe

/-- Read a single-quoted literal from just after its opening quote: the text it stands for and
what follows its closing quote, or nothing when the text ends inside it. -/
def readQuoted : List Char → Option (List Char × List Char)
  | [] => none
  | [c] => if singleQuote c then some ([], []) else none
  | c :: d :: rest =>
    if singleQuote c then
      if singleQuote d then (readQuoted rest).map (Prod.map (d :: ·) id)
      else some ([], d :: rest)
    else (readQuoted (d :: rest)).map (Prod.map (c :: ·) id)

/-! The reading rule, one character at a time. -/

theorem readQuoted_plain {c : Char} (plain : singleQuote c = false) (rest : List Char) :
    readQuoted (c :: rest) = (readQuoted rest).map (Prod.map (c :: ·) id) := by
  cases rest with
  | nil => simp [readQuoted, plain]
  | cons d rest => simp [readQuoted, plain]

theorem readQuoted_pair {c d : Char} (first : singleQuote c = true) (second : singleQuote d = true)
    (rest : List Char) :
    readQuoted (c :: d :: rest) = (readQuoted rest).map (Prod.map (d :: ·) id) := by
  simp [readQuoted, first, second]

theorem readQuoted_close {c : Char} (closing : singleQuote c = true) {rest : List Char}
    (apart : ∀ d ∈ rest.head?, singleQuote d = false) : readQuoted (c :: rest) = some ([], rest) := by
  cases rest with
  | nil => simp [readQuoted, closing]
  | cons d rest => simp_all [readQuoted]

theorem readQuoted_consumes {l v rest : List Char} (read : readQuoted l = some (v, rest)) :
    ∃ used, l = used ++ rest ∧ used.countP singleQuote = 2 * v.countP singleQuote + 1 := by
  induction l using readQuoted.induct generalizing v rest with
  | case1 => simp [readQuoted] at read
  | case2 c quote =>
    rw [readQuoted_close quote (by simp), Option.some.injEq, Prod.mk.injEq] at read
    obtain ⟨rfl, rfl⟩ := read
    exact ⟨[c], rfl, by simp [quote]⟩
  | case3 c plain => simp [readQuoted, plain] at read
  | case4 c d rest' quote pair later =>
    rw [readQuoted_pair quote pair, Option.map_eq_some_iff] at read
    obtain ⟨⟨v', r⟩, inner, same⟩ := read
    rw [Prod.map_apply, Prod.mk.injEq] at same
    obtain ⟨rfl, rfl⟩ := same
    obtain ⟨used, split, counted⟩ := later inner
    refine ⟨c :: d :: used, by simp [split], ?_⟩
    simp only [List.countP_cons, quote, pair, counted, if_true]
    omega
  | case5 c d rest' quote single =>
    rw [readQuoted_close quote (by simpa using single), Option.some.injEq, Prod.mk.injEq] at read
    obtain ⟨rfl, rfl⟩ := read
    exact ⟨[c], rfl, by simp [quote]⟩
  | case6 c d rest' plain later =>
    have plain : singleQuote c = false := by simpa using plain
    rw [readQuoted_plain plain, Option.map_eq_some_iff] at read
    obtain ⟨⟨v', r⟩, inner, same⟩ := read
    rw [Prod.map_apply, Prod.mk.injEq] at same
    obtain ⟨rfl, rfl⟩ := same
    obtain ⟨used, split, counted⟩ := later inner
    exact ⟨c :: used, by simp [split], by simp [plain, counted]⟩

/-! Escaping. -/

def doubled (c : Char) : List Char := if c = Text.apostrophe then [c, c] else [c]

theorem escapeText_toList (s : String) : (escapeText s).toList = s.toList.flatMap doubled := by
  simp only [escapeText, String.toList_join, List.flatMap_map]
  congr 1
  funext c
  by_cases quote : c = Text.apostrophe
  · simp [doubled, quote, Text.apostrophe]
  · simp [doubled, quote]

theorem escapeText_append (s t : String) : escapeText (s ++ t) = escapeText s ++ escapeText t := by
  simp [escapeText, String.join_append]

/-- Quotes in an escaped value: two for each apostrophe, one for each typographic quote. -/
theorem escaped_quotes (l : List Char) :
    (l.flatMap doubled).countP singleQuote + l.countP typographic = 2 * l.countP singleQuote := by
  induction l with
  | nil => rfl
  | cons c l counted =>
    simp only [List.flatMap_cons, List.countP_append, List.countP_cons]
    by_cases quote : c = Text.apostrophe
    · subst quote
      have : singleQuote Text.apostrophe = true := by decide
      simp [doubled, typographic, this]
      omega
    · cases single : singleQuote c <;> simp [doubled, typographic, quote, single] <;> omega

/-- An escaped value whose literal is followed by no quote character reads back as itself,
ending at its closing quote, when it holds no typographic quote. -/
theorem readQuoted_escaped {l : List Char} (plain : ∀ c ∈ l, typographic c = false)
    {rest : List Char} (apart : ∀ d ∈ rest.head?, singleQuote d = false) :
    readQuoted (l.flatMap doubled ++ Text.apostrophe :: rest) = some (l, rest) := by
  induction l with
  | nil => exact readQuoted_close (by decide) apart
  | cons c l later =>
    have rest_plain : ∀ c ∈ l, typographic c = false := fun c member =>
      plain c (List.mem_cons_of_mem _ member)
    by_cases quote : c = Text.apostrophe
    · subst quote
      simp only [List.flatMap_cons, doubled, if_pos, List.cons_append,
        List.nil_append]
      rw [readQuoted_pair (by decide) (by decide), later rest_plain]
      rfl
    · have single : singleQuote c = false := by
        simpa [typographic, quote] using plain c List.mem_cons_self
      simp only [List.flatMap_cons, doubled, if_neg quote, List.cons_append,
        List.nil_append]
      rw [readQuoted_plain single, later rest_plain]
      rfl

/-- A value's literal reads back as the value, ending at its own closing quote, exactly when the
value holds no typographic quote. -/
theorem readQuoted_escaped_iff (s : String) {rest : List Char}
    (apart : ∀ d ∈ rest.head?, singleQuote d = false) :
    readQuoted ((escapeText s).toList ++ Text.apostrophe :: rest) = some (s.toList, rest) ↔
      ∀ c ∈ s.toList, typographic c = false := by
  rw [escapeText_toList]
  constructor
  · intro read
    obtain ⟨used, split, counted⟩ := readQuoted_consumes read
    have closed : used = s.toList.flatMap doubled ++ [Text.apostrophe] := by
      have := split.symm
      rw [List.append_cons] at this
      exact List.append_cancel_right this
    have quotes := escaped_quotes s.toList
    have none : s.toList.countP typographic = 0 := by
      rw [closed, List.countP_append] at counted
      have : singleQuote Text.apostrophe = true := by decide
      simp [this] at counted
      omega
    intro c member
    simpa using List.countP_eq_zero.mp none c member
  · intro plain
    exact readQuoted_escaped plain apart

/-! Literals in a text. -/

/-- Text holds the literal of `v`: an opening quote, `v` escaped, the closing quote, and then a
character that is no quote. -/
def Quoted (text v : String) : Prop :=
  ∃ c, singleQuote c = false ∧
    Text.apostrophe :: (escapeText v).toList ++ [Text.apostrophe, c] <:+: text.toList

theorem Quoted.intro (pre rest v : String) {c : Char} {post : List Char}
    (follows : rest.toList = c :: post) (plain : singleQuote c = false) :
    Quoted (pre ++ ("'" ++ escapeText v ++ "'") ++ rest) v := by
  refine ⟨c, plain, pre.toList, post, ?_⟩
  simp [follows, Text.apostrophe]

theorem Quoted.within {text text' v : String} (quoted : Quoted text v)
    (inside : text.toList <:+: text'.toList) : Quoted text' v := by
  obtain ⟨c, plain, found⟩ := quoted
  exact ⟨c, plain, found.trans inside⟩

theorem Quoted.append {t v : String} (quoted : Quoted t v) (u : String) : Quoted (t ++ u) v :=
  quoted.within ⟨[], u.toList, by simp⟩

theorem Quoted.reads {text s : String} (quoted : Quoted text s) :
    ∃ pre post, text.toList = pre ++ Text.apostrophe :: (escapeText s).toList ++ Text.apostrophe :: post ∧
      (readQuoted ((escapeText s).toList ++ Text.apostrophe :: post) = some (s.toList, post) ↔
        ∀ c ∈ s.toList, typographic c = false) := by
  obtain ⟨c, plain, pre, post, spelled⟩ := quoted
  refine ⟨pre, c :: post, ?_, readQuoted_escaped_iff s (by simpa using plain)⟩
  rw [← spelled]
  simp

theorem infix_intercalate (sep : String) {ts : List String} {t : String} (member : t ∈ ts) :
    t.toList <:+: (sep.intercalate ts).toList := by
  rw [String.toList_intercalate]
  induction ts with
  | nil => cases member
  | cons a rest later =>
    cases rest with
    | nil =>
      rw [List.mem_singleton.mp member]
      simp
    | cons b rest =>
      rw [List.map_cons, List.map_cons, List.intercalate_cons_cons, List.append_assoc]
      rcases List.mem_cons.mp member with rfl | deeper
      · exact List.infix_append [] _ _
      · exact (later deeper).trans ⟨a.toList ++ sep.toList, [], by simp⟩

/-! The sections of the script. -/

theorem escape_ok {v : Value} {e : String} (escaped : escape v = .ok e) :
    ∃ s, v = .str s ∧ e = escapeText s := by
  unfold escape at escaped
  split at escaped
  · exact ⟨_, rfl, (Except.ok.inj escaped).symm⟩
  · cases escaped

theorem quote_ok {v : Value} {text : String} (quoted : quote v = .ok text) :
    ∃ s, v = .str s ∧ text = "'" ++ escapeText s ++ "'" := by
  obtain ⟨e, escaped, built⟩ := Outcome.bind_eq_ok.mp quoted
  obtain ⟨s, rfl, rfl⟩ := escape_ok escaped
  exact ⟨s, rfl, (Except.ok.inj built).symm⟩

@[simp] theorem quote_str (s : String) : quote (.str s) = .ok ("'" ++ escapeText s ++ "'") := rfl

theorem start_quotes : Quoted start logPath :=
  (Quoted.intro "New-Item -ItemType Directory -Force -Path (Split-Path " ") | Out-Null" logPath
    rfl rfl).within (infix_intercalate "\n" (List.mem_cons_of_mem _ List.mem_cons_self))

def password (o : SetupOptions) (env : Env) : List Value :=
  match env.find o.domainPasswordEnv with
  | .ok (some p) => [.str p]
  | _ => []

def joinValues (o : SetupOptions) (env : Env) : List Value :=
  password o env ++ [o.domainUsername, o.domainName] ++ if o.ouPath.truthy then [o.ouPath] else []

/-- A domain join that is written names a password the environment holds, a user and a domain
that are text, and an organizational unit that is text when it is set. -/
theorem joinDomain_ok {o : SetupOptions} {env : Env} {text : String}
    (joined : joinDomain o env = .ok text) (domain : o.joinsDomain = true) :
    ∃ p u d ou, env.find o.domainPasswordEnv = .ok (some p) ∧ o.domainUsername = .str u ∧
      o.domainName = .str d ∧
      (if o.ouPath.truthy then ∃ s, o.ouPath = .str s ∧ ou = " -OUPath " ++ ("'" ++ escapeText s ++ "'")
        else ou = "") ∧
      text = "\n".intercalate ["# Join Active Directory domain",
        "$password = ConvertTo-SecureString " ++ ("'" ++ escapeText p ++ "'") ++ " -AsPlainText -Force",
        "$credential = New-Object System.Management.Automation.PSCredential(" ++
          ("'" ++ escapeText u ++ "'") ++ ", $password)",
        "Add-Computer -DomainName " ++ ("'" ++ escapeText d ++ "'") ++ " -Credential $credential" ++
          ou ++ " -Force"] := by
  have named : o.domainName.truthy = true := domain
  cases user : o.domainUsername.truthy
  · simp [joinDomain, user, fail] at joined
  rcases found : env.find o.domainPasswordEnv with e | _ | p
  · simp [joinDomain, user, found] at joined
  · simp [joinDomain, user, found, fail] at joined
  by_cases empty : p = ""
  · simp [joinDomain, user, found, empty, fail] at joined
  rcases quotedUser : quote o.domainUsername with e | u
  · simp [joinDomain, user, found, empty, quotedUser] at joined
  rcases quotedDomain : quote o.domainName with e | d
  · simp [joinDomain, user, found, empty, quotedUser, quotedDomain, named] at joined
  obtain ⟨us, userText, rfl⟩ := quote_ok quotedUser
  obtain ⟨ds, domainText, rfl⟩ := quote_ok quotedDomain
  cases ou : o.ouPath.truthy
  · simp only [joinDomain, user, found, empty, quotedUser, quotedDomain, named, ou, quote_str, bind,
      Except.bind, pure, Except.pure, Bool.not_true, Bool.false_eq_true, if_false, if_true,
      String.isEmpty_iff] at joined
    exact ⟨p, us, ds, "", rfl, userText, domainText, by simp, (Except.ok.inj joined).symm⟩
  rcases quotedOu : quote o.ouPath with e | q
  · simp [joinDomain, user, found, empty, quotedUser, quotedDomain, named, ou, quotedOu] at joined
  obtain ⟨os, ouText, rfl⟩ := quote_ok quotedOu
  simp only [joinDomain, user, found, empty, quotedUser, quotedDomain, named, ou, quotedOu, quote_str,
    bind, Except.bind, pure, Except.pure, Bool.not_true, Bool.false_eq_true, if_false, if_true,
    String.isEmpty_iff] at joined
  exact ⟨p, us, ds, _, rfl, userText, domainText, by simp [ouText], (Except.ok.inj joined).symm⟩

theorem joinDomain_quotes {o : SetupOptions} {env : Env} {text : String}
    (joined : joinDomain o env = .ok text) (domain : o.joinsDomain = true) :
    ∀ v ∈ joinValues o env, ∃ s, v = .str s ∧ Quoted text s := by
  obtain ⟨p, u, d, ou, found, userText, domainText, unit, rfl⟩ := joinDomain_ok joined domain
  intro v member
  simp only [joinValues, password, found, List.cons_append, List.nil_append, List.mem_cons,
    userText, domainText] at member
  rcases member with rfl | rfl | rfl | unitMember
  · exact ⟨p, rfl, (Quoted.intro "$password = ConvertTo-SecureString " " -AsPlainText -Force" p
      rfl rfl).within (infix_intercalate "\n" (by simp))⟩
  · exact ⟨u, rfl, (Quoted.intro "$credential = New-Object System.Management.Automation.PSCredential("
      ", $password)" u rfl rfl).within (infix_intercalate "\n" (by simp))⟩
  · have line := ((Quoted.intro "Add-Computer -DomainName " " -Credential $credential" d rfl
      rfl).append ou).append " -Force"
    exact ⟨d, rfl, line.within (infix_intercalate "\n" (by simp))⟩
  · cases set : o.ouPath.truthy
    · simp [set] at unitMember
    · simp only [set, ↓reduceIte, List.mem_singleton] at unitMember unit
      obtain ⟨s, unitText, rfl⟩ := unit
      refine ⟨s, unitMember.trans unitText, ?_⟩
      have line := Quoted.intro ("Add-Computer -DomainName " ++ ("'" ++ escapeText d ++ "'") ++
        " -Credential $credential" ++ " -OUPath ") " -Force" s rfl rfl
      simp only [String.append_assoc] at line ⊢
      exact line.within (infix_intercalate "\n" (by simp))

theorem install_ok {o : SetupOptions} {token : Value} {text : String}
    (installed : install o token = .ok text) :
    ∃ a l t, o.agentUrl = .str a ∧ o.bootloaderUrl = .str l ∧ token = .str t ∧
      text = "\n".intercalate ["# Install AVD agent and boot loader",
        "$agent = Join-Path $env:TEMP 'RDAgent.msi'",
        "$bootloader = Join-Path $env:TEMP 'RDAgentBootLoader.msi'",
        "Invoke-WebRequest -UseBasicParsing -Uri " ++ ("'" ++ escapeText a ++ "'") ++ " -OutFile $agent",
        "Invoke-WebRequest -UseBasicParsing -Uri " ++ ("'" ++ escapeText l ++ "'") ++
          " -OutFile $bootloader",
        "Start-Process msiexec.exe -Wait -ArgumentList @(" ++
          ("'/i', $agent, '/quiet', 'REGISTRATIONTOKEN=" ++ escapeText t ++ "')"),
        "Start-Process msiexec.exe -Wait -ArgumentList @('/i', $bootloader, '/quiet')"] := by
  unfold install at installed
  cases given : (!o.agentUrl.truthy || !o.bootloaderUrl.truthy)
  case true => simp [given, fail] at installed
  simp only [given, Bool.false_eq_true, if_false] at installed
  obtain ⟨agent, agentQuoted, installed⟩ := Outcome.bind_eq_ok.mp installed
  obtain ⟨loader, loaderQuoted, installed⟩ := Outcome.bind_eq_ok.mp installed
  obtain ⟨secret, escaped, installed⟩ := Outcome.bind_eq_ok.mp installed
  obtain ⟨a, agentText, rfl⟩ := quote_ok agentQuoted
  obtain ⟨l, loaderText, rfl⟩ := quote_ok loaderQuoted
  obtain ⟨t, tokenText, rfl⟩ := escape_ok escaped
  exact ⟨a, l, t, agentText, loaderText, tokenText, (Except.ok.inj installed).symm⟩

theorem install_quotes {o : SetupOptions} {token : Value} {text : String}
    (installed : install o token = .ok text) :
    ∀ v ∈ [o.agentUrl, o.bootloaderUrl, .str ("REGISTRATIONTOKEN=" ++ token.text)],
      ∃ s, v = .str s ∧ Quoted text s := by
  obtain ⟨a, l, t, agentText, loaderText, rfl, rfl⟩ := install_ok installed
  intro v member
  simp only [List.mem_cons, List.not_mem_nil, or_false, agentText, loaderText] at member
  rcases member with rfl | rfl | rfl
  · exact ⟨a, rfl, (Quoted.intro "Invoke-WebRequest -UseBasicParsing -Uri " " -OutFile $agent" a
      rfl rfl).within (infix_intercalate "\n" (by simp))⟩
  · exact ⟨l, rfl, (Quoted.intro "Invoke-WebRequest -UseBasicParsing -Uri " " -OutFile $bootloader"
      l rfl rfl).within (infix_intercalate "\n" (by simp))⟩
  · -- the token is spliced after the argument name, inside one literal
    refine ⟨"REGISTRATIONTOKEN=" ++ t, rfl, ')', rfl, ?_⟩
    refine List.IsInfix.trans ⟨"Start-Process msiexec.exe -Wait -ArgumentList @('/i', $agent, '/quiet', ".toList,
      [], ?_⟩ (infix_intercalate "\n" (List.mem_cons_of_mem _ (List.mem_cons_of_mem _
        (List.mem_cons_of_mem _ (List.mem_cons_of_mem _ (List.mem_cons_of_mem _
          List.mem_cons_self))))))
    rw [escapeText_append, show escapeText "REGISTRATIONTOKEN=" = "REGISTRATIONTOKEN=" from rfl]
    simp [Text.apostrophe]

theorem build_ok {o : SetupOptions} {token : Value} {env : Env} {script : String}
    (built : build o token env = .ok script) :
    ∃ sections agent, script = "\n\n".intercalate sections ++ "\n" ∧ start ∈ sections ∧
      install o token = .ok agent ∧ agent ∈ sections ∧
      (o.joinsDomain = true → ∃ join, joinDomain o env = .ok join ∧ join ∈ sections) := by
  unfold build at built
  cases live : token.truthy
  · simp [live, fail] at built
  simp only [live, Bool.not_true, Bool.false_eq_true, if_false] at built
  obtain ⟨domain, joinedIn, built⟩ : ∃ domain, (o.joinsDomain = true →
      ∃ join, joinDomain o env = .ok join ∧ join ∈ domain) ∧
      (do
        let agent ← install o token
        if o.restart.truthy = true then do
          let line ← restart o.restartDelay
          let reboot ← pure [line]
          pure ("\n\n".intercalate ([start] ++ domain ++ [agent] ++ reboot ++ ["Stop-Transcript"]) ++ "\n")
        else do
          let reboot ← pure []
          pure ("\n\n".intercalate ([start] ++ domain ++ [agent] ++ reboot ++ ["Stop-Transcript"]) ++
            "\n")) = .ok script := by
    split at built
    · obtain ⟨join, joinedOk, built⟩ := Outcome.bind_eq_ok.mp built
      exact ⟨[join], fun _ => ⟨join, joinedOk, List.mem_singleton_self join⟩, built⟩
    · exact ⟨[], fun joins => absurd joins ‹_›, built⟩
  obtain ⟨agent, installed, built⟩ := Outcome.bind_eq_ok.mp built
  obtain ⟨reboot, shaped⟩ : ∃ reboot : List String,
      script = "\n\n".intercalate ([start] ++ domain ++ [agent] ++ reboot ++ ["Stop-Transcript"]) ++
        "\n" := by
    split at built
    · obtain ⟨line, -, built⟩ := Outcome.bind_eq_ok.mp built
      exact ⟨[line], (Except.ok.inj built).symm⟩
    · exact ⟨[], (Except.ok.inj built).symm⟩
  refine ⟨_, agent, shaped, by simp, installed, by simp, fun joins => ?_⟩
  obtain ⟨join, joinedOk, member⟩ := joinedIn joins
  exact ⟨join, joinedOk, by simp [member]⟩

/-! The whole script. -/

/-- The values the script embeds as literals, in the order it writes them: the transcript path,
the values of a domain join when it joins one, the installer addresses and the token argument. -/
def embedded (o : SetupOptions) (token : Value) (env : Env) : List Value :=
  .str logPath :: (if o.joinsDomain then joinValues o env else []) ++
    [o.agentUrl, o.bootloaderUrl, .str ("REGISTRATIONTOKEN=" ++ token.text)]

/-- Every value the script embeds is text and stands in it as a literal. -/
theorem embedded_quoted {o : SetupOptions} {token : Value} {env : Env} {script : String}
    (built : build o token env = .ok script) :
    ∀ v ∈ embedded o token env, ∃ s, v = .str s ∧ Quoted script s := by
  obtain ⟨sections, agent, rfl, started, installed, placed, joinedIn⟩ := build_ok built
  have inScript : ∀ {t s : String}, t ∈ sections → Quoted t s →
      Quoted ("\n\n".intercalate sections ++ "\n") s :=
    fun member quoted => (quoted.within (infix_intercalate "\n\n" member)).append "\n"
  intro v member
  simp only [embedded, List.mem_cons, List.mem_append] at member
  rcases member with (rfl | joined) | installs
  · exact ⟨logPath, rfl, inScript started start_quotes⟩
  · cases joins : o.joinsDomain
    · simp [joins] at joined
    · rw [if_pos joins] at joined
      obtain ⟨join, joinedOk, member⟩ := joinedIn joins
      obtain ⟨s, rfl, quoted⟩ := joinDomain_quotes joinedOk joins v joined
      exact ⟨s, rfl, inScript member quoted⟩
  · obtain ⟨s, rfl, quoted⟩ := install_quotes installed v (by simpa using installs)
    exact ⟨s, rfl, inScript placed quoted⟩

/-- Every value a built script embeds stands in it as a single-quoted literal, and read from
just after its opening quote that literal gives back exactly the value and ends at its own
closing quote, if and only if the value holds no typographic quote. -/
theorem build_literals_read_back {o : SetupOptions} {token : Value} {env : Env} {script : String}
    (built : build o token env = .ok script) :
    ∀ v ∈ embedded o token env, ∃ s, v = .str s ∧ ∃ pre post,
      script.toList = pre ++ Text.apostrophe :: (escapeText s).toList ++ Text.apostrophe :: post ∧
      (readQuoted ((escapeText s).toList ++ Text.apostrophe :: post) = some (s.toList, post) ↔
        ∀ c ∈ s.toList, typographic c = false) := by
  intro v member
  obtain ⟨s, rfl, quoted⟩ := embedded_quoted built v member
  exact ⟨s, rfl, quoted.reads⟩

/-- An installer address with a right single quote in it: the script builds, and the address's
literal does not read back as the address. -/
theorem typographic_address_breaks_out :
    let o : SetupOptions := { agentUrl := .str "https://example.invalid/RD’Agent.msi",
                              bootloaderUrl := .str "https://example.invalid/RDAgentBootLoader.msi" }
    ∃ script pre post, build o (.str "token") [] = .ok script ∧
      script.toList = pre ++ Text.apostrophe ::
        (escapeText "https://example.invalid/RD’Agent.msi").toList ++ Text.apostrophe :: post ∧
      readQuoted ((escapeText "https://example.invalid/RD’Agent.msi").toList ++
        Text.apostrophe :: post) ≠ some ("https://example.invalid/RD’Agent.msi".toList, post) := by
  intro o
  obtain ⟨s, same, pre, post, spelled, reads⟩ :=
    @build_literals_read_back o (.str "token") [] _ rfl o.agentUrl (by simp [o, embedded])
  obtain rfl : s = "https://example.invalid/RD’Agent.msi" := (Value.str.inj same).symm
  -- the address holds U+2019, so the read-back condition fails at that character
  have marked : '’' ∈ "https://example.invalid/RD’Agent.msi".toList := by simp
  exact ⟨_, pre, post, rfl, spelled,
    fun read => absurd (reads.mp read '’' marked) (by decide)⟩

end DesktopPool.SetupScript
