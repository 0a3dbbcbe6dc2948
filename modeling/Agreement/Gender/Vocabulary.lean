/- # Agreement.Gender.Vocabulary: the built-in vocabulary

Hebrew words of legal documents with their feminine, plural and organization forms. The masculine
form is the word itself. An organization takes feminine singular agreement, as in `החברה`, so its
column repeats the feminine one. The last column says whether the word is used as a noun and then
takes the definite article.
-/
import Agreement.Gender.Lexicon

namespace Agreement.Vocabulary

/-- A row: the word, its feminine, plural and organization forms, and whether it takes the
article. -/
abbrev Row := String × String × String × String × Bool

/-- Pronouns, and nouns and prepositions with pronominal suffixes. -/
def pronouns : List Row := [
  ("הוא", "היא", "הם", "היא", false),
  ("לו", "לה", "להם", "לה", false),
  ("אותו", "אותה", "אותם", "אותה", false),
  ("שלו", "שלה", "שלהם", "שלה", false),
  ("עליו", "עליה", "עליהם", "עליה", false),
  ("ממנו", "ממנה", "מהם", "ממנה", false),
  ("בו", "בה", "בהם", "בה", false),
  ("אליו", "אליה", "אליהם", "אליה", false),
  ("עצמו", "עצמה", "עצמם", "עצמה", false),
  ("ידו", "ידה", "ידם", "ידה", false),
  ("חתימתו", "חתימתה", "חתימתם", "חתימתה", false),
  ("רכושו", "רכושה", "רכושם", "רכושה", false),
  ("נכסיו", "נכסיה", "נכסיהם", "נכסיה", false),
  ("ילדיו", "ילדיה", "ילדיהם", "ילדיה", false),
  ("יורשיו", "יורשיה", "יורשיהם", "יורשיה", false),
  ("דעתו", "דעתה", "דעתם", "דעתה", false),
  ("רצונו", "רצונה", "רצונם", "רצונה", false),
  ("מותו", "מותה", "מותם", "מותה", false),
  ("פטירתו", "פטירתה", "פטירתם", "פטירתה", false),
  ("זכויותיו", "זכויותיה", "זכויותיהם", "זכויותיה", false),
  ("חובותיו", "חובותיה", "חובותיהם", "חובותיה", false),
  ("מטעמו", "מטעמה", "מטעמם", "מטעמה", false),
  ("בשמו", "בשמה", "בשמם", "בשמה", false),
  ("לטובתו", "לטובתה", "לטובתם", "לטובתה", false),
  ("ברשותו", "ברשותה", "ברשותם", "ברשותה", false),
  ("בבעלותו", "בבעלותה", "בבעלותם", "בבעלותה", false),
  ("כתובתו", "כתובתה", "כתובתם", "כתובתה", false),
  ("מענו", "מענה", "מענם", "מענה", false),
  ("בהיותו", "בהיותה", "בהיותם", "בהיותה", false),
  ("מרצונו", "מרצונה", "מרצונם", "מרצונה", false),
  ("עיזבונו", "עיזבונה", "עיזבונם", "עיזבונה", false),
  ("תפקידו", "תפקידה", "תפקידם", "תפקידה", false),
  ("עבורו", "עבורה", "עבורם", "עבורה", false),
  ("בא כוחו", "באת כוחה", "באי כוחם", "באת כוחה", false)]

/-- Verbs in the past tense. -/
def pastTense : List Row := [
  ("עשה", "עשתה", "עשו", "עשתה", false),
  ("חתם", "חתמה", "חתמו", "חתמה", false),
  ("ציווה", "ציוותה", "ציוו", "ציוותה", false),
  ("הצהיר", "הצהירה", "הצהירו", "הצהירה", false),
  ("קיבל", "קיבלה", "קיבלו", "קיבלה", false),
  ("היה", "הייתה", "היו", "הייתה", false),
  ("ביקש", "ביקשה", "ביקשו", "ביקשה", false),
  ("הסכים", "הסכימה", "הסכימו", "הסכימה", false)]

/-- Verbs in the future tense. -/
def futureTense : List Row := [
  ("יהיה", "תהיה", "יהיו", "תהיה", false),
  ("ישלם", "תשלם", "ישלמו", "תשלם", false),
  ("יחתום", "תחתום", "יחתמו", "תחתום", false),
  ("ימסור", "תמסור", "ימסרו", "תמסור", false),
  ("ישא", "תישא", "ישאו", "תישא", false),
  ("יפעל", "תפעל", "יפעלו", "תפעל", false),
  ("ישפה", "תשפה", "ישפו", "תשפה", false),
  ("יקבל", "תקבל", "יקבלו", "תקבל", false)]

/-- Verbs in the present tense and participles; used as nouns they take the article. -/
def participles : List Row := [
  ("מצהיר", "מצהירה", "מצהירים", "מצהירה", true),
  ("מתחייב", "מתחייבת", "מתחייבים", "מתחייבת", true),
  ("מסכים", "מסכימה", "מסכימים", "מסכימה", true),
  ("מאשר", "מאשרת", "מאשרים", "מאשרת", true),
  ("מוריש", "מורישה", "מורישים", "מורישה", true),
  ("מבקש", "מבקשת", "מבקשים", "מבקשת", true),
  ("נותן", "נותנת", "נותנים", "נותנת", true),
  ("מייפה", "מייפה", "מייפים", "מייפה", true),
  ("חוזר", "חוזרת", "חוזרים", "חוזרת", false),
  ("מבטל", "מבטלת", "מבטלים", "מבטלת", true),
  ("עושה", "עושה", "עושים", "עושה", false),
  ("יכול", "יכולה", "יכולים", "יכולה", false),
  ("רוצה", "רוצה", "רוצים", "רוצה", false)]

/-- Adjectives. -/
def adjectives : List Row := [
  ("רשאי", "רשאית", "רשאים", "רשאית", false),
  ("זכאי", "זכאית", "זכאים", "זכאית", true),
  ("אחראי", "אחראית", "אחראים", "אחראית", true),
  ("חייב", "חייבת", "חייבים", "חייבת", true),
  ("מודע", "מודעת", "מודעים", "מודעת", false),
  ("בריא", "בריאה", "בריאים", "בריאה", false),
  ("כשיר", "כשירה", "כשירים", "כשירה", false),
  ("ישראלי", "ישראלית", "ישראלים", "ישראלית", true),
  ("מורשה", "מורשית", "מורשים", "מורשית", true),
  ("ממונה", "ממונה", "ממונים", "ממונה", true)]

/-- Parties and their roles. -/
def roles : List Row := [
  ("מנוח", "מנוחה", "מנוחים", "מנוחה", true),
  ("מצווה", "מצווה", "מצווים", "מצווה", true),
  ("יורש", "יורשת", "יורשים", "יורשת", true),
  ("נאמן", "נאמנה", "נאמנים", "נאמנה", true),
  ("מנהל", "מנהלת", "מנהלים", "מנהלת", true),
  ("אפוטרופוס", "אפוטרופסית", "אפוטרופסים", "אפוטרופסית", true),
  ("מיופה כוח", "מיופת כוח", "מיופי כוח", "מיופת כוח", false),
  ("חתום מטה", "חתומה מטה", "חתומים מטה", "חתומה מטה", true),
  ("לקוח", "לקוחה", "לקוחות", "לקוחה", true),
  ("שוכר", "שוכרת", "שוכרים", "שוכרת", true),
  ("משכיר", "משכירה", "משכירים", "משכירה", true),
  ("קונה", "קונה", "קונים", "קונה", true),
  ("מוכר", "מוכרת", "מוכרים", "מוכרת", true),
  ("לווה", "לווה", "לווים", "לווה", true),
  ("מלווה", "מלווה", "מלווים", "מלווה", true),
  ("עובד", "עובדת", "עובדים", "עובדת", true),
  ("מעסיק", "מעסיקה", "מעסיקים", "מעסיקה", true),
  ("תובע", "תובעת", "תובעים", "תובעת", true),
  ("נתבע", "נתבעת", "נתבעים", "נתבעת", true),
  ("משיב", "משיבה", "משיבים", "משיבה", true),
  ("תושב", "תושבת", "תושבים", "תושבת", true),
  ("נושה", "נושה", "נושים", "נושה", true),
  ("זוכה", "זוכה", "זוכים", "זוכה", true)]

/-- All rows. -/
def rows : List Row :=
  pronouns ++ pastTense ++ futureTense ++ participles ++ adjectives ++ roles

/-- The entry of a row. -/
def Row.entry (row : Row) : String × Entry :=
  let (male, female, plural, organization, takesArticle) := row
  (male, ⟨⟨male, female, plural, some organization⟩, takesArticle⟩)

end Agreement.Vocabulary

namespace Agreement

/-- The built-in vocabulary, version 1. -/
def Lexicon.hebrew : Lexicon :=
  { Lexicon.empty.bindAll (Vocabulary.rows.map Vocabulary.Row.entry) with version := 1 }

end Agreement
