import SeedArchive.Csv.Table
import SeedArchive.Seed.Tables

namespace SeedArchive

/-- What an entry of an archive holds. A placeholder is a table without rows. -/
inductive Content
  | manifest
  | accounts
  | templates
  | templateLines
  | templateTags
  | placeholder (columns : String)
  deriving DecidableEq, Repr

structure LayoutEntry where
  name : String
  content : Content
  deriving DecidableEq, Repr

namespace Layout

def manifestName : String := "MANIFEST.md"

/-- The entries of an archive in the order in which the importer wants them. -/
def entries : List LayoutEntry := [
  ⟨manifestName, .manifest⟩,
  ⟨"01_company_config.csv", .placeholder
    "company_name,company_address,company_phone,company_email,tax_id,npwp,nitku,fiscal_year_start_month,currency_code,signing_officer_name,signing_officer_title"⟩,
  ⟨"02_chart_of_accounts.csv", .accounts⟩,
  ⟨"03_salary_components.csv", .placeholder
    "code,name,description,component_type,is_percentage,default_rate,default_amount,is_system,display_order,active,is_taxable,bpjs_category"⟩,
  ⟨"04_journal_templates.csv", .templates⟩,
  ⟨"05_journal_template_lines.csv", .templateLines⟩,
  ⟨"06_journal_template_tags.csv", .templateTags⟩,
  ⟨"07_clients.csv", .placeholder
    "code,name,contact_person,email,phone,address,npwp,nik,nitku,active,created_at"⟩,
  ⟨"08_projects.csv", .placeholder
    "code,name,client_code,status,start_date,end_date,budget_amount,contract_value,description,created_at"⟩,
  ⟨"09_project_milestones.csv", .placeholder
    "project_code,sequence,name,description,status,weight_percent,target_date,actual_date"⟩,
  ⟨"10_project_payment_terms.csv", .placeholder
    "project_code,sequence,milestone_sequence,template_name,name,is_percentage,percentage,amount,due_trigger,auto_post"⟩,
  ⟨"11_fiscal_periods.csv", .placeholder
    "year,month,status,month_closed_at,month_closed_by,tax_filed_at,tax_filed_by"⟩,
  ⟨"12_tax_deadlines.csv", .placeholder
    "deadline_type,name,description,due_day,use_last_day_of_month,reminder_days_before,active"⟩,
  ⟨"13_company_bank_accounts.csv", .placeholder
    "bank_name,account_number,account_name,bank_branch,is_default,active"⟩,
  ⟨"14_merchant_mappings.csv", .placeholder
    "merchant_pattern,match_type,template_name,default_description,match_count,last_used_at"⟩,
  ⟨"15_employees.csv", .placeholder
    "employee_id,name,email,nik_ktp,npwp,ptkp_status,job_title,department,employment_type,hire_date,resign_date,bank_name,bank_account,bpjs_kesehatan_number,bpjs_ketenagakerjaan_number,employment_status,username"⟩,
  ⟨"16_employee_salary_components.csv", .placeholder
    "employee_id,component_code,rate,amount,effective_date,end_date"⟩,
  ⟨"17_invoices.csv", .placeholder
    "invoice_number,invoice_date,due_date,client_code,project_code,status,amount,notes,created_at"⟩,
  ⟨"18_transactions.csv", .placeholder
    "transaction_number,transaction_date,template_name,project_code,amount,description,reference_number,notes,status,void_reason,void_notes,voided_at,voided_by,posted_at,posted_by,created_at"⟩,
  ⟨"19_transaction_account_mappings.csv", .placeholder
    "transaction_number,template_name,line_order,account_code,amount"⟩,
  ⟨"20_journal_entries.csv", .placeholder
    "journal_number,journal_date,transaction_number,description,status,account_code,debit_amount,credit_amount,posted_at,voided_at,void_reason"⟩,
  ⟨"21_payroll_runs.csv", .placeholder
    "payroll_period,period_start,period_end,status,total_gross,total_deductions,total_net_pay,total_company_bpjs,total_pph21,employee_count,notes,posted_at,cancelled_at,cancel_reason,created_at"⟩,
  ⟨"22_payroll_details.csv", .placeholder
    "payroll_period,employee_id,gross_salary,total_deductions,net_pay,bpjs_kes_employee,bpjs_kes_company,bpjs_jht_employee,bpjs_jht_company,bpjs_jp_employee,bpjs_jp_company,bpjs_jkk,bpjs_jkm,pph21"⟩,
  ⟨"23_amortization_schedules.csv", .placeholder
    "code,name,schedule_type,source_account_code,target_account_code,total_amount,total_periods,period_amount,start_date,status,auto_post,completed_periods,amortized_amount"⟩,
  ⟨"24_amortization_entries.csv", .placeholder
    "schedule_code,period_number,period_start,period_end,amount,status,journal_number,posted_at"⟩,
  ⟨"25_tax_transaction_details.csv", .placeholder
    "transaction_number,tax_type,counterparty_name,counterparty_npwp,counterparty_nik,counterparty_nitku,tax_object_code,dpp,tax_amount,faktur_number,faktur_date"⟩,
  ⟨"26_tax_deadline_completions.csv", .placeholder
    "deadline_type,year,month,completed_date,completed_by,reference_number,notes"⟩,
  ⟨"27_draft_transactions.csv", .placeholder
    "source,status,merchant_name,transaction_date,amount,suggested_template_name,merchant_confidence,date_confidence,amount_confidence,raw_ocr_text,processed_at,processed_by,rejection_reason"⟩,
  ⟨"28_users.csv", .placeholder "username,password,full_name,email,active,created_at"⟩,
  ⟨"29_user_roles.csv", .placeholder "username,role,created_by,created_at"⟩,
  ⟨"30_user_template_preferences.csv", .placeholder
    "username,template_name,is_favorite,use_count,last_used_at"⟩,
  ⟨"31_telegram_user_links.csv", .placeholder
    "telegram_user_id,telegram_username,username,is_active,linked_at"⟩,
  ⟨"32_audit_logs.csv", .placeholder "timestamp,username,action,entity_type,entity_id,ip_address"⟩,
  ⟨"33_transaction_sequences.csv", .placeholder "sequence_type,prefix,year,last_number"⟩,
  ⟨"documents/index.csv", .placeholder
    "storage_path,original_filename,content_type,file_size,transaction_number,journal_number,uploaded_at"⟩]

def names : List String :=
  entries.map LayoutEntry.name

def placeholders : List (String × String) :=
  entries.filterMap fun e =>
    match e.content with
    | .placeholder columns => some (e.name, columns)
    | _ => none

def find? (name : String) : Option LayoutEntry :=
  entries.find? fun e => e.name = name

end Layout

end SeedArchive
