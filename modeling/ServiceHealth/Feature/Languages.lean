import ServiceHealth.Feature.Keywords

/-!
# The languages of feature files

A feature file names its language by a short code; a code that is not in the table
names no language.  In nearly all languages a bullet may stand for the keyword of a
step; where it may not, the language is entered without it.
-/

namespace ServiceHealth.Feature.Keywords

/-- The keywords of a language, where a bullet may also start a step. -/
def bulleted (keywords : Keywords) : Keywords :=
  { keywords with
    precondition := "* " :: keywords.precondition
    event := "* " :: keywords.event
    expectation := "* " :: keywords.expectation
    conjunction := "* " :: keywords.conjunction
    contrast := "* " :: keywords.contrast }

/-- The languages by their codes. -/
def languages : List (String × Keywords) :=
  [("en", english),
    ("af", bulleted
      { feature := ["Funksie", "Besigheid Behoefte", "Vermoë"], background := ["Agtergrond"],
        rule := ["Regel"], example_ := ["Voorbeeld", "Situasie"],
        outline := ["Situasie Uiteensetting"], examples := ["Voorbeelde"],
        precondition := ["Gegewe "], event := ["Wanneer "], expectation := ["Dan "],
        conjunction := ["En "], contrast := ["Maar "] }),
    ("am", bulleted
      { feature := ["Ֆունկցիոնալություն", "Հատկություն"], background := ["Կոնտեքստ"],
        rule := ["Rule"], example_ := ["Օրինակ", "Սցենար"], outline := ["Սցենարի կառուցվացքը"],
        examples := ["Օրինակներ"], precondition := ["Դիցուք "], event := ["Եթե ", "Երբ "],
        expectation := ["Ապա "], conjunction := ["Եվ "], contrast := ["Բայց "] }),
    ("an", bulleted
      { feature := ["Caracteristica"], background := ["Antecedents"], rule := ["Rule"],
        example_ := ["Eixemplo", "Caso"], outline := ["Esquema del caso"],
        examples := ["Eixemplos"], precondition := ["Dau ", "Dada ", "Daus ", "Dadas "],
        event := ["Cuan "], expectation := ["Alavez ", "Allora ", "Antonces "],
        conjunction := ["Y ", "E "], contrast := ["Pero "] }),
    ("ar", bulleted
      { feature := ["خاصية"], background := ["الخلفية"], rule := ["Rule"],
        example_ := ["مثال", "سيناريو"], outline := ["سيناريو مخطط"], examples := ["امثلة"],
        precondition := ["بفرض "], event := ["متى ", "عندما "], expectation := ["اذاً ", "ثم "],
        conjunction := ["و "], contrast := ["لكن "] }),
    ("ast", bulleted
      { feature := ["Carauterística"], background := ["Antecedentes"], rule := ["Rule"],
        example_ := ["Exemplo", "Casu"], outline := ["Esbozu del casu"], examples := ["Exemplos"],
        precondition := ["Dáu ", "Dada ", "Daos ", "Daes "], event := ["Cuando "],
        expectation := ["Entós "], conjunction := ["Y ", "Ya "], contrast := ["Peru "] }),
    ("az", bulleted
      { feature := ["Özəllik"], background := ["Keçmiş", "Kontekst"], rule := ["Rule"],
        example_ := ["Nümunə", "Ssenari"], outline := ["Ssenarinin strukturu"],
        examples := ["Nümunələr"], precondition := ["Tutaq ki ", "Verilir "],
        event := ["Əgər ", "Nə vaxt ki "], expectation := ["O halda "],
        conjunction := ["Və ", "Həm "], contrast := ["Amma ", "Ancaq "] }),
    ("bg", bulleted
      { feature := ["Функционалност"], background := ["Предистория"], rule := ["Правило"],
        example_ := ["Пример", "Сценарий"], outline := ["Рамка на сценарий"],
        examples := ["Примери"], precondition := ["Дадено "], event := ["Когато "],
        expectation := ["То "], conjunction := ["И "], contrast := ["Но "] }),
    ("bm", bulleted
      { feature := ["Fungsi"], background := ["Latar Belakang"], rule := ["Rule"],
        example_ := ["Senario", "Situasi", "Keadaan"],
        outline := ["Kerangka Senario", "Kerangka Situasi", "Kerangka Keadaan",
          "Garis Panduan Senario"], examples := ["Contoh"], precondition := ["Diberi ", "Bagi "],
        event := ["Apabila "], expectation := ["Maka ", "Kemudian "], conjunction := ["Dan "],
        contrast := ["Tetapi ", "Tapi "] }),
    ("bs", bulleted
      { feature := ["Karakteristika"], background := ["Pozadina"], rule := ["Rule"],
        example_ := ["Primjer", "Scenariju", "Scenario"],
        outline := ["Scenariju-obris", "Scenario-outline"], examples := ["Primjeri"],
        precondition := ["Dato "], event := ["Kada "], expectation := ["Zatim "],
        conjunction := ["I ", "A "], contrast := ["Ali "] }),
    ("ca", bulleted
      { feature := ["Característica", "Funcionalitat"], background := ["Rerefons", "Antecedents"],
        rule := ["Rule"], example_ := ["Exemple", "Escenari"], outline := ["Esquema de l'escenari"],
        examples := ["Exemples"], precondition := ["Donat ", "Donada ", "Atès ", "Atesa "],
        event := ["Quan "], expectation := ["Aleshores ", "Cal "], conjunction := ["I "],
        contrast := ["Però "] }),
    ("cs", bulleted
      { feature := ["Požadavek"], background := ["Pozadí", "Kontext"], rule := ["Pravidlo"],
        example_ := ["Příklad", "Scénář"], outline := ["Náčrt Scénáře", "Osnova scénáře"],
        examples := ["Příklady"], precondition := ["Pokud ", "Za předpokladu "], event := ["Když "],
        expectation := ["Pak "], conjunction := ["A také ", "A "], contrast := ["Ale "] }),
    ("cy-GB", bulleted
      { feature := ["Arwedd"], background := ["Cefndir"], rule := ["Rule"],
        example_ := ["Enghraifft", "Scenario"], outline := ["Scenario Amlinellol"],
        examples := ["Enghreifftiau"], precondition := ["Anrhegedig a "], event := ["Pryd "],
        expectation := ["Yna "], conjunction := ["A "], contrast := ["Ond "] }),
    ("da", bulleted
      { feature := ["Egenskab"], background := ["Baggrund"], rule := ["Regel"],
        example_ := ["Eksempel", "Scenarie"], outline := ["Abstrakt Scenario"],
        examples := ["Eksempler"], precondition := ["Givet "], event := ["Når "],
        expectation := ["Så "], conjunction := ["Og "], contrast := ["Men "] }),
    ("de", german),
    ("el", bulleted
      { feature := ["Δυνατότητα", "Λειτουργία"], background := ["Υπόβαθρο"], rule := ["Rule"],
        example_ := ["Παράδειγμα", "Σενάριο"],
        outline := ["Περιγραφή Σεναρίου", "Περίγραμμα Σεναρίου"],
        examples := ["Παραδείγματα", "Σενάρια"], precondition := ["Δεδομένου "], event := ["Όταν "],
        expectation := ["Τότε "], conjunction := ["Και "], contrast := ["Αλλά "] }),
    ("em", bulleted
      { feature := ["📚"], background := ["💤"], rule := ["Rule"], example_ := ["🥒", "📕"],
        outline := ["📖"], examples := ["📓"], precondition := ["😐"], event := ["🎬"],
        expectation := ["🙏"], conjunction := ["😂"], contrast := ["😔"] }),
    ("en-Scouse", bulleted
      { feature := ["Feature"], background := ["Dis is what went down"], rule := ["Rule"],
        example_ := ["The thing of it is"], outline := ["Wharrimean is"], examples := ["Examples"],
        precondition := ["Givun ", "Youse know when youse got "],
        event := ["Wun ", "Youse know like when "], expectation := ["Dun ", "Den youse gotta "],
        conjunction := ["An "], contrast := ["Buh "] }),
    ("en-au", bulleted
      { feature := ["Pretty much"], background := ["First off"], rule := ["Rule"],
        example_ := ["Awww, look mate"], outline := ["Reckon it's like"],
        examples := ["You'll wanna"], precondition := ["Y'know "],
        event := ["It's just unbelievable "],
        expectation := ["But at the end of the day I reckon "], conjunction := ["Too right "],
        contrast := ["Yeah nah "] }),
    ("en-lol", bulleted
      { feature := ["OH HAI"], background := ["B4"], rule := ["Rule"], example_ := ["MISHUN"],
        outline := ["MISHUN SRSLY"], examples := ["EXAMPLZ"], precondition := ["I CAN HAZ "],
        event := ["WEN "], expectation := ["DEN "], conjunction := ["AN "], contrast := ["BUT "] }),
    ("en-pirate", bulleted
      { feature := ["Ahoy matey!"], background := ["Yo-ho-ho"], rule := ["Rule"],
        example_ := ["Heave to"], outline := ["Shiver me timbers"],
        examples := ["Dead men tell no tales"], precondition := ["Gangway! "],
        event := ["Blimey! "], expectation := ["Let go and haul "], conjunction := ["Aye "],
        contrast := ["Avast! "] }),
    ("eo", bulleted
      { feature := ["Trajto"], background := ["Fono"], rule := ["Rule"],
        example_ := ["Ekzemplo", "Scenaro", "Kazo"],
        outline := ["Konturo de la scenaro", "Skizo", "Kazo-skizo"], examples := ["Ekzemploj"],
        precondition := ["Donitaĵo ", "Komence "], event := ["Se "], expectation := ["Do "],
        conjunction := ["Kaj "], contrast := ["Sed "] }),
    ("es", bulleted
      { feature := ["Característica", "Necesidad del negocio", "Requisito"],
        background := ["Antecedentes"], rule := ["Regla", "Regla de negocio"],
        example_ := ["Ejemplo", "Escenario"], outline := ["Esquema del escenario"],
        examples := ["Ejemplos"], precondition := ["Dado ", "Dada ", "Dados ", "Dadas "],
        event := ["Cuando "], expectation := ["Entonces "], conjunction := ["Y ", "E "],
        contrast := ["Pero "] }),
    ("et", bulleted
      { feature := ["Omadus"], background := ["Taust"], rule := ["Reegel"],
        example_ := ["Juhtum", "Stsenaarium"], outline := ["Raamjuhtum", "Raamstsenaarium"],
        examples := ["Juhtumid"], precondition := ["Eeldades "], event := ["Kui "],
        expectation := ["Siis "], conjunction := ["Ja "], contrast := ["Kuid "] }),
    ("fa", bulleted
      { feature := ["وِیژگی"], background := ["زمینه"], rule := ["Rule"],
        example_ := ["مثال", "سناریو"], outline := ["الگوی سناریو"], examples := ["نمونه ها"],
        precondition := ["با فرض "], event := ["هنگامی "], expectation := ["آنگاه "],
        conjunction := ["و "], contrast := ["اما "] }),
    ("fi", bulleted
      { feature := ["Ominaisuus"], background := ["Tausta"], rule := ["Rule"],
        example_ := ["Tapaus"], outline := ["Tapausaihio"], examples := ["Tapaukset"],
        precondition := ["Oletetaan "], event := ["Kun "], expectation := ["Niin "],
        conjunction := ["Ja "], contrast := ["Mutta "] }),
    ("fr", french),
    ("ga", bulleted
      { feature := ["Gné"], background := ["Cúlra"], rule := ["Rule"],
        example_ := ["Sampla", "Cás"], outline := ["Cás Achomair"], examples := ["Samplaí"],
        precondition :=
          ["Cuir i gcás go", "Cuir i gcás nach", "Cuir i gcás gur", "Cuir i gcás nár"],
        event := ["Nuair a", "Nuair nach", "Nuair ba", "Nuair nár"], expectation := ["Ansin"],
        conjunction := ["Agus"], contrast := ["Ach"] }),
    ("gj", bulleted
      { feature := ["લક્ષણ", "વ્યાપાર જરૂર", "ક્ષમતા"], background := ["બેકગ્રાઉન્ડ"],
        rule := ["Rule"], example_ := ["ઉદાહરણ", "સ્થિતિ"],
        outline := ["પરિદ્દશ્ય રૂપરેખા", "પરિદ્દશ્ય ઢાંચો"], examples := ["ઉદાહરણો"],
        precondition := ["આપેલ છે "], event := ["ક્યારે "], expectation := ["પછી "],
        conjunction := ["અને "], contrast := ["પણ "] }),
    ("gl", bulleted
      { feature := ["Característica"], background := ["Contexto"], rule := ["Rule"],
        example_ := ["Exemplo", "Escenario"], outline := ["Esbozo do escenario"],
        examples := ["Exemplos"], precondition := ["Dado ", "Dada ", "Dados ", "Dadas "],
        event := ["Cando "], expectation := ["Entón ", "Logo "], conjunction := ["E "],
        contrast := ["Mais ", "Pero "] }),
    ("he", bulleted
      { feature := ["תכונה"], background := ["רקע"], rule := ["כלל"],
        example_ := ["דוגמא", "תרחיש"], outline := ["תבנית תרחיש"], examples := ["דוגמאות"],
        precondition := ["בהינתן "], event := ["כאשר "], expectation := ["אז ", "אזי "],
        conjunction := ["וגם "], contrast := ["אבל "] }),
    ("hi", bulleted
      { feature := ["रूप लेख"], background := ["पृष्ठभूमि"], rule := ["नियम"],
        example_ := ["परिदृश्य"], outline := ["परिदृश्य रूपरेखा"], examples := ["उदाहरण"],
        precondition := ["अगर ", "यदि ", "चूंकि "], event := ["जब ", "कदा "],
        expectation := ["तब ", "तदा "], conjunction := ["और ", "तथा "],
        contrast := ["पर ", "परन्तु ", "किन्तु "] }),
    ("hr", bulleted
      { feature := ["Osobina", "Mogućnost", "Mogucnost"], background := ["Pozadina"],
        rule := ["Rule"], example_ := ["Primjer", "Scenarij"], outline := ["Skica", "Koncept"],
        examples := ["Primjeri", "Scenariji"],
        precondition := ["Zadan ", "Zadani ", "Zadano ", "Ukoliko "], event := ["Kada ", "Kad "],
        expectation := ["Onda "], conjunction := ["I "], contrast := ["Ali "] }),
    ("ht", bulleted
      { feature := ["Karakteristik", "Mak", "Fonksyonalite"], background := ["Kontèks", "Istorik"],
        rule := ["Rule"], example_ := ["Senaryo"],
        outline := ["Plan senaryo", "Plan Senaryo", "Senaryo deskripsyon", "Senaryo Deskripsyon",
          "Dyagram senaryo", "Dyagram Senaryo"], examples := ["Egzanp"],
        precondition := ["Sipoze ", "Sipoze ke ", "Sipoze Ke "], event := ["Lè ", "Le "],
        expectation := ["Lè sa a ", "Le sa a "], conjunction := ["Ak ", "Epi ", "E "],
        contrast := ["Men "] }),
    ("hu", bulleted
      { feature := ["Jellemző"], background := ["Háttér"], rule := ["Szabály"],
        example_ := ["Példa", "Forgatókönyv"], outline := ["Forgatókönyv vázlat"],
        examples := ["Példák"], precondition := ["Amennyiben ", "Adott "],
        event := ["Majd ", "Ha ", "Amikor "], expectation := ["Akkor "], conjunction := ["És "],
        contrast := ["De "] }),
    ("id", bulleted
      { feature := ["Fitur"], background := ["Dasar", "Latar Belakang"], rule := ["Rule", "Aturan"],
        example_ := ["Skenario"], outline := ["Skenario konsep", "Garis-Besar Skenario"],
        examples := ["Contoh", "Misal"],
        precondition := ["Dengan ", "Diketahui ", "Diasumsikan ", "Bila ", "Jika "],
        event := ["Ketika "], expectation := ["Maka ", "Kemudian "], conjunction := ["Dan "],
        contrast := ["Tapi ", "Tetapi "] }),
    ("is", bulleted
      { feature := ["Eiginleiki"], background := ["Bakgrunnur"], rule := ["Rule"],
        example_ := ["Atburðarás"], outline := ["Lýsing Atburðarásar", "Lýsing Dæma"],
        examples := ["Dæmi", "Atburðarásir"], precondition := ["Ef "], event := ["Þegar "],
        expectation := ["Þá "], conjunction := ["Og "], contrast := ["En "] }),
    ("it", bulleted
      { feature := ["Funzionalità", "Esigenza di Business", "Abilità"], background := ["Contesto"],
        rule := ["Regola"], example_ := ["Esempio", "Scenario"],
        outline := ["Schema dello scenario"], examples := ["Esempi"],
        precondition := ["Dato ", "Data ", "Dati ", "Date "], event := ["Quando "],
        expectation := ["Allora "], conjunction := ["E "], contrast := ["Ma "] }),
    ("ja", bulleted
      { feature := ["フィーチャ", "機能"], background := ["背景"], rule := ["ルール"], example_ := ["シナリオ"],
        outline := ["シナリオアウトライン", "シナリオテンプレート", "テンプレ", "シナリオテンプレ"], examples := ["例", "サンプル"],
        precondition := ["前提"], event := ["もし"], expectation := ["ならば"],
        conjunction := ["且つ", "かつ"], contrast := ["然し", "しかし", "但し", "ただし"] }),
    ("jv", bulleted
      { feature := ["Fitur"], background := ["Dasar"], rule := ["Rule"], example_ := ["Skenario"],
        outline := ["Konsep skenario"], examples := ["Conto", "Contone"],
        precondition := ["Nalika ", "Nalikaning "], event := ["Manawa ", "Menawa "],
        expectation := ["Njuk ", "Banjur "], conjunction := ["Lan "],
        contrast := ["Tapi ", "Nanging ", "Ananging "] }),
    ("kn", bulleted
      { feature := ["ಹೆಚ್ಚಳ"], background := ["ಹಿನ್ನೆಲೆ"], rule := ["Rule"],
        example_ := ["ಉದಾಹರಣೆ", "ಕಥಾಸಾರಾಂಶ"], outline := ["ವಿವರಣೆ"], examples := ["ಉದಾಹರಣೆಗಳು"],
        precondition := ["ನೀಡಿದ "], event := ["ಸ್ಥಿತಿಯನ್ನು "], expectation := ["ನಂತರ "],
        conjunction := ["ಮತ್ತು "], contrast := ["ಆದರೆ "] }),
    ("ko", bulleted
      { feature := ["기능"], background := ["배경"], rule := ["Rule"], example_ := ["시나리오"],
        outline := ["시나리오 개요"], examples := ["예"], precondition := ["조건", "먼저"],
        event := ["만일", "만약"], expectation := ["그러면"], conjunction := ["그리고"],
        contrast := ["하지만", "단"] }),
    ("lt", bulleted
      { feature := ["Savybė"], background := ["Kontekstas"], rule := ["Rule"],
        example_ := ["Pavyzdys", "Scenarijus"], outline := ["Scenarijaus šablonas"],
        examples := ["Pavyzdžiai", "Scenarijai", "Variantai"], precondition := ["Duota "],
        event := ["Kai "], expectation := ["Tada "], conjunction := ["Ir "],
        contrast := ["Bet "] }),
    ("lu", bulleted
      { feature := ["Funktionalitéit"], background := ["Hannergrond"], rule := ["Rule"],
        example_ := ["Beispill", "Szenario"], outline := ["Plang vum Szenario"],
        examples := ["Beispiller"], precondition := ["ugeholl "], event := ["wann "],
        expectation := ["dann "], conjunction := ["an ", "a "], contrast := ["awer ", "mä "] }),
    ("lv", bulleted
      { feature := ["Funkcionalitāte", "Fīča"], background := ["Konteksts", "Situācija"],
        rule := ["Rule"], example_ := ["Piemērs", "Scenārijs"],
        outline := ["Scenārijs pēc parauga"], examples := ["Piemēri", "Paraugs"],
        precondition := ["Kad "], event := ["Ja "], expectation := ["Tad "], conjunction := ["Un "],
        contrast := ["Bet "] }),
    ("mk-Cyrl", bulleted
      { feature := ["Функционалност", "Бизнис потреба", "Можност"],
        background := ["Контекст", "Содржина"], rule := ["Rule"],
        example_ := ["Пример", "Сценарио", "На пример"],
        outline := ["Преглед на сценарија", "Скица", "Концепт"],
        examples := ["Примери", "Сценарија"], precondition := ["Дадено ", "Дадена "],
        event := ["Кога "], expectation := ["Тогаш "], conjunction := ["И "],
        contrast := ["Но "] }),
    ("mk-Latn", bulleted
      { feature := ["Funkcionalnost", "Biznis potreba", "Mozhnost"],
        background := ["Kontekst", "Sodrzhina"], rule := ["Rule"],
        example_ := ["Scenario", "Na primer"],
        outline := ["Pregled na scenarija", "Skica", "Koncept"],
        examples := ["Primeri", "Scenaria"], precondition := ["Dadeno ", "Dadena "],
        event := ["Koga "], expectation := ["Togash "], conjunction := ["I "],
        contrast := ["No "] }),
    ("mn", bulleted
      { feature := ["Функц", "Функционал"], background := ["Агуулга"], rule := ["Rule"],
        example_ := ["Сценар"], outline := ["Сценарын төлөвлөгөө"], examples := ["Тухайлбал"],
        precondition := ["Өгөгдсөн нь ", "Анх "], event := ["Хэрэв "],
        expectation := ["Тэгэхэд ", "Үүний дараа "], conjunction := ["Мөн ", "Тэгээд "],
        contrast := ["Гэхдээ ", "Харин "] }),
    ("mr", bulleted
      { feature := ["वैशिष्ट्य", "सुविधा"], background := ["पार्श्वभूमी"], rule := ["नियम"],
        example_ := ["परिदृश्य"], outline := ["परिदृश्य रूपरेखा"], examples := ["उदाहरण"],
        precondition := ["जर", "दिलेल्या प्रमाणे "], event := ["जेव्हा "],
        expectation := ["मग ", "तेव्हा "], conjunction := ["आणि ", "तसेच "],
        contrast := ["पण ", "परंतु "] }),
    ("ne", bulleted
      { feature := ["सुविधा", "विशेषता"], background := ["पृष्ठभूमी"], rule := ["नियम"],
        example_ := ["परिदृश्य"], outline := ["परिदृश्य रूपरेखा"],
        examples := ["उदाहरण", "उदाहरणहरु"], precondition := ["दिइएको ", "दिएको ", "यदि "],
        event := ["जब "], expectation := ["त्यसपछि ", "अनी "], conjunction := ["र ", "अनी "],
        contrast := ["तर "] }),
    ("nl", bulleted
      { feature := ["Functionaliteit"], background := ["Achtergrond"], rule := ["Regel"],
        example_ := ["Voorbeeld", "Scenario"], outline := ["Abstract Scenario"],
        examples := ["Voorbeelden"], precondition := ["Gegeven ", "Stel "],
        event := ["Als ", "Wanneer "], expectation := ["Dan "], conjunction := ["En "],
        contrast := ["Maar "] }),
    ("no", bulleted
      { feature := ["Egenskap"], background := ["Bakgrunn"], rule := ["Regel"],
        example_ := ["Eksempel", "Scenario"], outline := ["Scenariomal", "Abstrakt Scenario"],
        examples := ["Eksempler"], precondition := ["Gitt "], event := ["Når "],
        expectation := ["Så "], conjunction := ["Og "], contrast := ["Men "] }),
    ("pa", bulleted
      { feature := ["ਖਾਸੀਅਤ", "ਮੁਹਾਂਦਰਾ", "ਨਕਸ਼ ਨੁਹਾਰ"], background := ["ਪਿਛੋਕੜ"], rule := ["Rule"],
        example_ := ["ਉਦਾਹਰਨ", "ਪਟਕਥਾ"], outline := ["ਪਟਕਥਾ ਢਾਂਚਾ", "ਪਟਕਥਾ ਰੂਪ ਰੇਖਾ"],
        examples := ["ਉਦਾਹਰਨਾਂ"], precondition := ["ਜੇਕਰ ", "ਜਿਵੇਂ ਕਿ "], event := ["ਜਦੋਂ "],
        expectation := ["ਤਦ "], conjunction := ["ਅਤੇ "], contrast := ["ਪਰ "] }),
    ("pl", bulleted
      { feature := ["Właściwość", "Funkcja", "Aspekt", "Potrzeba biznesowa"],
        background := ["Założenia"], rule := ["Zasada", "Reguła"],
        example_ := ["Przykład", "Scenariusz"], outline := ["Szablon scenariusza"],
        examples := ["Przykłady"], precondition := ["Zakładając ", "Mając ", "Zakładając, że "],
        event := ["Jeżeli ", "Jeśli ", "Gdy ", "Kiedy "], expectation := ["Wtedy "],
        conjunction := ["Oraz ", "I "], contrast := ["Ale "] }),
    ("pt", bulleted
      { feature := ["Funcionalidade", "Característica", "Caracteristica"],
        background := ["Contexto", "Cenário de Fundo", "Cenario de Fundo", "Fundo"],
        rule := ["Regra"], example_ := ["Exemplo", "Cenário", "Cenario"],
        outline := ["Esquema do Cenário", "Esquema do Cenario", "Delineação do Cenário",
          "Delineacao do Cenario"], examples := ["Exemplos", "Cenários", "Cenarios"],
        precondition := ["Dado ", "Dada ", "Dados ", "Dadas "], event := ["Quando "],
        expectation := ["Então ", "Entao "], conjunction := ["E "], contrast := ["Mas "] }),
    ("ro", bulleted
      { feature := ["Functionalitate", "Funcționalitate", "Funcţionalitate"],
        background := ["Context"], rule := ["Rule"], example_ := ["Exemplu", "Scenariu"],
        outline := ["Structura scenariu", "Structură scenariu"], examples := ["Exemple"],
        precondition := ["Date fiind ", "Dat fiind ", "Dată fiind", "Dati fiind ", "Dați fiind ",
          "Daţi fiind "], event := ["Cand ", "Când "], expectation := ["Atunci "],
        conjunction := ["Si ", "Și ", "Şi "], contrast := ["Dar "] }),
    ("ru", bulleted
      { feature := ["Функция", "Функциональность", "Функционал", "Свойство", "Фича"],
        background := ["Предыстория", "Контекст"], rule := ["Правило"],
        example_ := ["Пример", "Сценарий"], outline := ["Структура сценария", "Шаблон сценария"],
        examples := ["Примеры"], precondition := ["Допустим ", "Дано ", "Пусть "],
        event := ["Когда ", "Если "], expectation := ["То ", "Затем ", "Тогда "],
        conjunction := ["И ", "К тому же ", "Также "], contrast := ["Но ", "А ", "Иначе "] }),
    ("sk", bulleted
      { feature := ["Požiadavka", "Funkcia", "Vlastnosť"], background := ["Pozadie"],
        rule := ["Rule"], example_ := ["Príklad", "Scenár"],
        outline := ["Náčrt Scenáru", "Náčrt Scenára", "Osnova Scenára"], examples := ["Príklady"],
        precondition := ["Pokiaľ ", "Za predpokladu "], event := ["Keď ", "Ak "],
        expectation := ["Tak ", "Potom "],
        conjunction := ["A ", "A tiež ", "A taktiež ", "A zároveň "], contrast := ["Ale "] }),
    ("sl",
      { feature := ["Funkcionalnost", "Funkcija", "Možnosti", "Moznosti", "Lastnost", "Značilnost"],
        background := ["Kontekst", "Osnova", "Ozadje"], rule := ["Rule"],
        example_ := ["Primer", "Scenarij"],
        outline := ["Struktura scenarija", "Skica", "Koncept", "Oris scenarija", "Osnutek"],
        examples := ["Primeri", "Scenariji"],
        precondition := ["Dano ", "Podano ", "Zaradi ", "Privzeto "],
        event := ["Ko ", "Ce ", "Če ", "Kadar "], expectation := ["Nato ", "Potem ", "Takrat "],
        conjunction := ["In ", "Ter "], contrast := ["Toda ", "Ampak ", "Vendar "] }),
    ("sr-Cyrl", bulleted
      { feature := ["Функционалност", "Могућност", "Особина"],
        background := ["Контекст", "Основа", "Позадина"], rule := ["Правило"],
        example_ := ["Пример", "Сценарио"], outline := ["Структура сценарија", "Скица", "Концепт"],
        examples := ["Примери", "Сценарији"], precondition := ["За дато ", "За дате ", "За дати "],
        event := ["Када ", "Кад "], expectation := ["Онда "], conjunction := ["И "],
        contrast := ["Али "] }),
    ("sr-Latn", bulleted
      { feature := ["Funkcionalnost", "Mogućnost", "Mogucnost", "Osobina"],
        background := ["Kontekst", "Osnova", "Pozadina"], rule := ["Pravilo"],
        example_ := ["Scenario", "Primer"], outline := ["Struktura scenarija", "Skica", "Koncept"],
        examples := ["Primeri", "Scenariji"], precondition := ["Za dato ", "Za date ", "Za dati "],
        event := ["Kada ", "Kad "], expectation := ["Onda "], conjunction := ["I "],
        contrast := ["Ali "] }),
    ("sv", bulleted
      { feature := ["Egenskap"], background := ["Bakgrund"], rule := ["Regel"],
        example_ := ["Scenario"], outline := ["Abstrakt Scenario", "Scenariomall"],
        examples := ["Exempel"], precondition := ["Givet "], event := ["När "],
        expectation := ["Så "], conjunction := ["Och "], contrast := ["Men "] }),
    ("ta", bulleted
      { feature := ["அம்சம்", "வணிக தேவை", "திறன்"], background := ["பின்னணி"], rule := ["Rule"],
        example_ := ["உதாரணமாக", "காட்சி"], outline := ["காட்சி சுருக்கம்", "காட்சி வார்ப்புரு"],
        examples := ["எடுத்துக்காட்டுகள்", "காட்சிகள்", "நிலைமைகளில்"],
        precondition := ["கொடுக்கப்பட்ட "], event := ["எப்போது "], expectation := ["அப்பொழுது "],
        conjunction := ["மேலும்  ", "மற்றும் "], contrast := ["ஆனால்  "] }),
    ("te", bulleted
      { feature := ["గుణము"], background := ["నేపథ్యం"], rule := ["Rule"],
        example_ := ["ఉదాహరణ", "సన్నివేశం"], outline := ["కథనం"], examples := ["ఉదాహరణలు"],
        precondition := ["చెప్పబడినది "], event := ["ఈ పరిస్థితిలో "], expectation := ["అప్పుడు "],
        conjunction := ["మరియు "], contrast := ["కాని "] }),
    ("th", bulleted
      { feature := ["โครงหลัก", "ความต้องการทางธุรกิจ", "ความสามารถ"], background := ["แนวคิด"],
        rule := ["Rule"], example_ := ["เหตุการณ์"],
        outline := ["สรุปเหตุการณ์", "โครงสร้างของเหตุการณ์"],
        examples := ["ชุดของตัวอย่าง", "ชุดของเหตุการณ์"], precondition := ["กำหนดให้ "],
        event := ["เมื่อ "], expectation := ["ดังนั้น "], conjunction := ["และ "],
        contrast := ["แต่ "] }),
    ("tlh", bulleted
      { feature := ["Qap", "Qu'meH 'ut", "perbogh", "poQbogh malja'", "laH"], background := ["mo'"],
        rule := ["Rule"], example_ := ["lut"], outline := ["lut chovnatlh"],
        examples := ["ghantoH", "lutmey"], precondition := ["ghu' noblu' ", "DaH ghu' bejlu' "],
        event := ["qaSDI' "], expectation := ["vaj "], conjunction := ["'ej ", "latlh "],
        contrast := ["'ach ", "'a "] }),
    ("tr", bulleted
      { feature := ["Özellik"], background := ["Geçmiş"], rule := ["Kural"],
        example_ := ["Örnek", "Senaryo"], outline := ["Senaryo taslağı"], examples := ["Örnekler"],
        precondition := ["Diyelim ki "], event := ["Eğer ki "], expectation := ["O zaman "],
        conjunction := ["Ve "], contrast := ["Fakat ", "Ama "] }),
    ("tt", bulleted
      { feature := ["Мөмкинлек", "Үзенчәлеклелек"], background := ["Кереш"], rule := ["Rule"],
        example_ := ["Сценарий"], outline := ["Сценарийның төзелеше"],
        examples := ["Үрнәкләр", "Мисаллар"], precondition := ["Әйтик "], event := ["Әгәр "],
        expectation := ["Нәтиҗәдә "], conjunction := ["Һәм ", "Вә "],
        contrast := ["Ләкин ", "Әмма "] }),
    ("uk", bulleted
      { feature := ["Функціонал"], background := ["Передумова"], rule := ["Rule"],
        example_ := ["Приклад", "Сценарій"], outline := ["Структура сценарію"],
        examples := ["Приклади"],
        precondition := ["Припустимо ", "Припустимо, що ", "Нехай ", "Дано "],
        event := ["Якщо ", "Коли "], expectation := ["То ", "Тоді "],
        conjunction := ["І ", "А також ", "Та "], contrast := ["Але "] }),
    ("ur", bulleted
      { feature := ["صلاحیت", "کاروبار کی ضرورت", "خصوصیت"], background := ["پس منظر"],
        rule := ["Rule"], example_ := ["منظرنامہ"], outline := ["منظر نامے کا خاکہ"],
        examples := ["مثالیں"], precondition := ["اگر ", "بالفرض ", "فرض کیا "], event := ["جب "],
        expectation := ["پھر ", "تب "], conjunction := ["اور "], contrast := ["لیکن "] }),
    ("uz", bulleted
      { feature := ["Функционал"], background := ["Тарих"], rule := ["Rule"],
        example_ := ["Сценарий"], outline := ["Сценарий структураси"], examples := ["Мисоллар"],
        precondition := ["Belgilangan "], event := ["Агар "], expectation := ["Унда "],
        conjunction := ["Ва "], contrast := ["Лекин ", "Бирок ", "Аммо "] }),
    ("vi", bulleted
      { feature := ["Tính năng"], background := ["Bối cảnh"], rule := ["Rule"],
        example_ := ["Tình huống", "Kịch bản"], outline := ["Khung tình huống", "Khung kịch bản"],
        examples := ["Dữ liệu"], precondition := ["Biết ", "Cho "], event := ["Khi "],
        expectation := ["Thì "], conjunction := ["Và "], contrast := ["Nhưng "] }),
    ("zh-CN", bulleted
      { feature := ["功能"], background := ["背景"], rule := ["Rule", "规则"], example_ := ["场景", "剧本"],
        outline := ["场景大纲", "剧本大纲"], examples := ["例子"], precondition := ["假如", "假设", "假定"],
        event := ["当"], expectation := ["那么"], conjunction := ["而且", "并且", "同时"],
        contrast := ["但是"] }),
    ("zh-TW", bulleted
      { feature := ["功能"], background := ["背景"], rule := ["Rule"], example_ := ["場景", "劇本"],
        outline := ["場景大綱", "劇本大綱"], examples := ["例子"], precondition := ["假如", "假設", "假定"],
        event := ["當"], expectation := ["那麼"], conjunction := ["而且", "並且", "同時"],
        contrast := ["但是"] })]

/-- The keywords of the language with this code. -/
def named? (language : String) : Option Keywords :=
  languages.lookup language

end ServiceHealth.Feature.Keywords
