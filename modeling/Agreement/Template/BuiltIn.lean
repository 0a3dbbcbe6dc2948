/- # Agreement.Template.BuiltIn: the built-in clauses

Hebrew clauses for wills, powers of attorney, rental and employment agreements, and a signature
line that fits any of them.
-/
import Agreement.Template.Library

namespace Agreement.BuiltIn

/-- The testator and the declaration of free will. -/
def willOpening : Clause where
  id := "will_opening"
  title := "פתיחת צוואה"
  category := "will"
  body :=
    "\x7b\x7btestator_name\x7d\x7d, ת\"ז \x7b\x7btestator_id\x7d\x7d, מרחוב " ++
    "\x7b\x7btestator_address\x7d\x7d (להלן: \"המצווה\"), מצהיר כי הוא עושה צוואה זו בהיותו " ++
    "בדעה צלולה, מרצונו הטוב והחופשי וללא כל השפעה בלתי הוגנת."
  declaredVariables := ["testator_name", "testator_id", "testator_address"]
  documentTypes := ["will"]
  fields :=
    [ .text "testator_name" "שם המצווה",
      .text "testator_id" "מספר זהות",
      .text "testator_address" "כתובת" ]

/-- The revocation of earlier wills. -/
def willRevocation : Clause where
  id := "will_revocation"
  title := "ביטול צוואות קודמות"
  category := "will"
  body :=
    "המצווה מבטל בזאת כל צוואה קודמת שנעשתה על ידו, וכל הוראה בצוואה קודמת בטלה ומבוטלת."
  documentTypes := ["will"]

/-- The estate left to one heir. -/
def willHeirs : Clause where
  id := "will_heirs"
  title := "הורשת הרכוש"
  category := "will"
  body :=
    "המצווה מוריש את כל רכושו, לרבות מקרקעין, כספים וזכויות מכל סוג, " ++
    "ל\x7b\x7bheir_name\x7d\x7d, ת\"ז \x7b\x7bheir_id\x7d\x7d, \x7b\x7bheir_relation\x7d\x7d " ++
    "\x7b\x7bgender:שלו|שלה|שלהם\x7d\x7d."
  declaredVariables := ["heir_name", "heir_id", "heir_relation"]
  documentTypes := ["will"]
  fields :=
    [ .text "heir_name" "שם היורש",
      .text "heir_id" "מספר זהות היורש",
      .select "heir_relation" "קרבה" ["בנו", "בתו", "בן זוגו", "אחיו"] ]

/-- The share of an heir. -/
def willHeirShare : Clause where
  id := "will_heir_share"
  title := "חלקו של יורש"
  category := "will"
  body :=
    "\x7b\x7b@heir:היורש\x7d\x7d \x7b\x7bheir_name\x7d\x7d \x7b\x7b@heir:יקבל\x7d\x7d " ++
    "\x7b\x7bshare\x7d\x7d מהעיזבון."
  declaredVariables := ["heir_name", "share"]
  documentTypes := ["will"]

/-- The appointment of an executor. -/
def willExecutor : Clause where
  id := "will_executor"
  title := "מינוי מנהל עיזבון"
  category := "will"
  body :=
    "המצווה ממנה את \x7b\x7bexecutor_name\x7d\x7d ל\x7b\x7b@executor:מנהל\x7d\x7d עיזבונו, " ++
    "ו\x7b\x7b@executor:הוא\x7d\x7d \x7b\x7b@executor:יהיה\x7d\x7d " ++
    "\x7b\x7b@executor:רשאי\x7d\x7d לפעול בשם העיזבון לביצוע הוראות צוואה זו."
  declaredVariables := ["executor_name"]
  documentTypes := ["will"]

/-- The grant of a power of attorney. -/
def poaGrant : Clause where
  id := "poa_grant"
  title := "מתן ייפוי כוח"
  category := "power_of_attorney"
  body :=
    "\x7b\x7bprincipal_name\x7d\x7d, ת\"ז \x7b\x7bprincipal_id\x7d\x7d (להלן: \"המייפה\"), " ++
    "מייפה בזאת את כוחו של \x7b\x7battorney_name\x7d\x7d לפעול בשמו בכל הנוגע " ++
    "ל\x7b\x7bpoa_scope\x7d\x7d."
  declaredVariables := ["principal_name", "principal_id", "attorney_name", "poa_scope"]
  documentTypes := ["power_of_attorney"]

/-- The right to revoke a power of attorney. -/
def poaRevocation : Clause where
  id := "poa_revocation"
  title := "ביטול ייפוי כוח"
  category := "power_of_attorney"
  body :=
    "המייפה רשאי לבטל את ייפוי הכוח בכל עת בהודעה בכתב, והביטול ייכנס לתוקף במועד מסירת " ++
    "ההודעה."
  documentTypes := ["power_of_attorney"]

/-- The parties of a rental agreement. -/
def rentalParties : Clause where
  id := "rental_parties"
  title := "צדדים להסכם שכירות"
  category := "rental"
  body :=
    "הסכם זה נערך ונחתם ביום \x7b\x7bsigning_date\x7d\x7d בין \x7b\x7blandlord_name\x7d\x7d " ++
    "(להלן: \"\x7b\x7b@landlord:המשכיר\x7d\x7d\") לבין \x7b\x7btenant_name\x7d\x7d (להלן: " ++
    "\"\x7b\x7b@tenant:השוכר\x7d\x7d\")."
  declaredVariables := ["signing_date", "landlord_name", "tenant_name"]
  documentTypes := ["rental"]

/-- The rent and its day of payment. -/
def rentalPayment : Clause where
  id := "rental_payment"
  title := "דמי שכירות"
  category := "rental"
  body :=
    "\x7b\x7b@tenant:השוכר\x7d\x7d \x7b\x7b@tenant:מתחייב\x7d\x7d לשלם " ++
    "ל\x7b\x7b@landlord:משכיר\x7d\x7d דמי שכירות חודשיים בסך \x7b\x7bmonthly_rent\x7d\x7d " ++
    "ש\"ח, עד ה-\x7b\x7bpayment_day\x7d\x7d בכל חודש."
  declaredVariables := ["monthly_rent", "payment_day"]
  documentTypes := ["rental"]

/-- The duties of an employee. -/
def employmentDuties : Clause where
  id := "employment_duties"
  title := "חובות העובד"
  category := "employment"
  body :=
    "העובד מתחייב לבצע את תפקידו כ\x7b\x7bposition\x7d\x7d במסירות ובנאמנות, ולפעול בהתאם " ++
    "להוראות \x7b\x7b@employer:המעסיק\x7d\x7d כפי שיינתנו מעת לעת."
  declaredVariables := ["position"]
  documentTypes := ["employment"]

/-- The signature line. -/
def signature : Clause where
  id := "signature"
  title := "חתימה"
  category := "general"
  body :=
    "ולראיה \x7b\x7bgender:בא|באה|באו|באה\x7d\x7d \x7b\x7bparty_name\x7d\x7d על החתום ביום " ++
    "\x7b\x7bsigning_date\x7d\x7d:"
  declaredVariables := ["party_name", "signing_date"]

end Agreement.BuiltIn

namespace Agreement

/-- The built-in clauses. -/
def Library.builtIn : Library :=
  ⟨[ BuiltIn.willOpening, BuiltIn.willRevocation, BuiltIn.willHeirs, BuiltIn.willHeirShare,
     BuiltIn.willExecutor, BuiltIn.poaGrant, BuiltIn.poaRevocation, BuiltIn.rentalParties,
     BuiltIn.rentalPayment, BuiltIn.employmentDuties, BuiltIn.signature ]⟩

end Agreement
